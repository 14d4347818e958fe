/-
# Movements of weights

Five things can happen to weights: an executable is compiled and its device receives those of the
host, a device receives them again, the trainer makes new ones, another device computes with its
own, and the host fetches those of the trainer. For each of them this module says that the
session stays balanced and which devices are spared. What the wrappers do is put together from
these five and from idle steps.
-/

import Offload.Proofs.Weights.Balance

namespace Offload

namespace Ledger

theorem after_compile {tag : Tag} {request : CompileRequest} {demanded : Bool} (ledger : Ledger) :
    ledger.after ⟨.compile tag request, true, demanded⟩ = ledger.receive tag := rfl

theorem after_copyToDevice {tag : Tag} {demanded : Bool} (ledger : Ledger) :
    ledger.after ⟨.copyToDevice tag, true, demanded⟩ = ledger.receive tag := rfl

theorem after_copyToHost {tag : Tag} {demanded : Bool} (ledger : Ledger) :
    ledger.after ⟨.copyToHost tag, true, demanded⟩ = ledger.fetch tag demanded := rfl

theorem after_execute {tag : Tag} {inputs : List Value} {optimizer : Option Descriptor}
    {demanded : Bool} (ledger : Ledger) :
    ledger.after ⟨.execute tag inputs optimizer, true, demanded⟩ = ledger.step tag := rfl

end Ledger

namespace Session

variable {P : Platform} {handle : Handle} {trainer : Option DeviceId} {id : DeviceId}
  {session : Session P.journaled} {tagged : Tagged P.Executable} {world : P.World}

/-- A device on which nothing was compiled gets the executable that was just compiled. -/
theorem Registered.compile (registered : Registered trainer session) {request : CompileRequest}
    (number : tagged.tag.number = session.compiled)
    (role : tagged.tag.training = true ↔ trainer = some id) :
    Registered trainer (session.did (.compile tagged.tag request) world id fun device =>
      { device with executable := some tagged }) := by
  have compiled : (session.did (.compile tagged.tag request) world id fun device =>
      { device with executable := some tagged }).compiled = session.compiled + 1 := by
    simp [Entry.compiles]
  constructor
  · intro other found there
    by_cases same : other = id
    · subst same
      have new : tagged = found := by simpa using there
      exact new ▸ role
    · exact registered.role other found (by simpa [same] using there)
  · intro other found there
    rw [compiled]
    by_cases same : other = id
    · subst same
      have new : tagged = found := by simpa using there
      rw [← new, number]
      exact Nat.lt_succ_self _
    · exact Nat.lt_succ_of_lt (registered.numbered other found (by simpa [same] using there))
  · intro first second found found' there there' equal
    -- the numbers given out before are all smaller than the new one
    by_cases here : first = id <;> by_cases here' : second = id
    · rw [here, here']
    · have old := registered.numbered second found' (by simpa [here'] using there')
      have new : tagged = found := by simpa [here] using there
      rw [← equal, ← new, number] at old
      exact absurd old (Nat.lt_irrefl _)
    · have old := registered.numbered first found (by simpa [here] using there)
      have new : tagged = found' := by simpa [here'] using there'
      rw [equal, ← new, number] at old
      exact absurd old (Nat.lt_irrefl _)
    · exact registered.distinct first second found found' (by simpa [here] using there)
        (by simpa [here'] using there') equal

/-- Changing a device but not its executable leaves the register. -/
theorem Registered.did (registered : Registered trainer session) {operation : Operation}
    {change : Device P.journaled → Device P.journaled}
    (same : (change (session.device id)).executable = (session.device id).executable) :
    Registered trainer (session.did operation world id change) := by
  refine registered.transfer (fun other => ?_) (by simp)
  rw [did_device]
  split
  · next here => rw [here, same]
  · rfl

/-- What is asked of one device spares all others, if it says nothing of their receipts. -/
theorem spares_did {touched : DeviceId → Prop} {operation : Operation}
    {change : Device P.journaled → Device P.journaled}
    (kept : ¬ touched id →
      (change (session.device id)).executable = (session.device id).executable)
    (receipts : ∀ other found, ¬ touched other → (session.device other).executable = some found →
      (session.ledger.after ⟨operation, true, session.world.demanding⟩).refreshesAt
          found.tag.number = session.ledger.refreshesAt found.tag.number) :
    Spares touched session (session.did operation world id change) where
  journal := Journaled.grows_asked world session.world trivial
  next := rfl
  executable other spared := by
    rw [did_device]
    split
    · next here => rw [kept (here ▸ spared), here]
    · rfl
  refreshesAt other found spared there := by
    rw [did_ledger]
    exact receipts other found spared there

/-- Receipts of the executables with other numbers stay. -/
theorem receive_refreshesAt {ledger : Ledger} {tag : Tag} {number : Nat}
    (other : number ≠ tag.number) :
    (ledger.receive tag).refreshesAt number = ledger.refreshesAt number := by
  unfold Ledger.receive
  split
  · rfl
  · exact Function.update_of_ne other _ _

section Receive

/-- A device that follows the host receives its weights. -/
theorem Balanced.send (balanced : Balanced handle trainer session) (inference : trainer ≠ some id)
    (there : (session.device id).executable = some tagged) :
    Balanced handle trainer (session.did (.copyToDevice tagged.tag) world id fun device =>
      { device with deviceStale := false }) := by
  have role : tagged.tag.training = false := by
    rw [Bool.eq_false_iff, ne_eq, balanced.registered.role id tagged there]
    exact inference
  refine
    { hook := balanced.hook
      refreshes := ?_
      ahead := ?_
      stale := fun other chosen => ?_
      untrained := fun none => ?_
      registered := balanced.registered.did rfl
      unmarked := fun other => ?_
      undemanded := balanced.undemanded
      upToDate := balanced.upToDate.append_singleton nofun }
  · simpa [Ledger.after_copyToDevice, Ledger.receive, role] using balanced.refreshes
  · simpa [Ledger.after_copyToDevice, Ledger.receive, role] using balanced.ahead
  · have apart : other ≠ id := fun same => inference (same ▸ chosen)
    simpa [Ledger.after_copyToDevice, Ledger.receive, role, apart] using balanced.stale other chosen
  · have apart (other : DeviceId) (chosen : trainer = some other) : other ≠ id :=
      fun same => inference (same ▸ chosen)
    have := balanced.untrained fun other chosen => by
      simpa [apart other chosen] using none other chosen
    simpa [Ledger.after_copyToDevice, Ledger.receive, role] using this
  · rw [did_device]
    split
    · rfl
    · exact balanced.unmarked other

theorem Balanced.spares_send (balanced : Balanced handle trainer session)
    (there : (session.device id).executable = some tagged) :
    Spares (· = id) session (session.did (.copyToDevice tagged.tag) world id fun device =>
      { device with deviceStale := false }) := by
  refine spares_did (fun _ => rfl) fun other found spared other_there =>
    receive_refreshesAt fun equal => ?_
  exact spared (balanced.registered.distinct other id found tagged other_there there equal)

/-- An executable is compiled for a device that had none, and its device receives the weights of
the host. -/
theorem Balanced.compile (balanced : Balanced handle trainer session) {request : CompileRequest}
    (fresh : (session.device id).executable = none)
    (number : tagged.tag.number = session.compiled)
    (role : tagged.tag.training = true ↔ trainer = some id) :
    Balanced handle trainer (session.did (.compile tagged.tag request) world id fun device =>
      { device with executable := some tagged }) := by
  -- a trainer that had no executable has trained nothing, so it is not thrown back
  have untrained (trains : trainer = some id) : session.ledger.host = session.ledger.trainer :=
    balanced.untrained fun other chosen => by
      have same : id = other := by simpa [trains] using chosen
      exact same ▸ fresh
  have sameTrainer : (session.ledger.receive tagged.tag).trainer = session.ledger.trainer := by
    by_cases trains : trainer = some id
    · simp [Ledger.receive, role.mpr trains, untrained trains]
    · simp [Ledger.receive, mt role.mp trains]
  have sameHost : (session.ledger.receive tagged.tag).host = session.ledger.host := by
    unfold Ledger.receive; split <;> rfl
  have sameRefreshes :
      (session.ledger.receive tagged.tag).refreshes = session.ledger.refreshes := by
    unfold Ledger.receive; split <;> rfl
  refine
    { hook := balanced.hook
      refreshes := ?_
      ahead := ?_
      stale := fun other chosen => ?_
      untrained := fun none => ?_
      registered := balanced.registered.compile number role
      unmarked := fun other => ?_
      undemanded := balanced.undemanded
      upToDate := balanced.upToDate.append_singleton nofun }
  · rw [did_ledger, Ledger.after_compile, sameRefreshes]
    exact balanced.refreshes
  · rw [did_ledger, Ledger.after_compile, sameHost, sameTrainer]
    exact balanced.ahead
  · rw [did_ledger, Ledger.after_compile, sameHost, sameTrainer, did_device]
    split
    · next same => exact balanced.stale id (same ▸ chosen)
    · exact balanced.stale other chosen
  · rw [did_ledger, Ledger.after_compile, sameHost, sameTrainer]
    apply balanced.untrained
    intro other chosen
    have untouched := none other chosen
    rw [did_device] at untouched
    split at untouched
    · simp at untouched
    · exact untouched
  · rw [did_device]
    split
    · exact balanced.unmarked id
    · exact balanced.unmarked other

theorem Balanced.spares_compile (balanced : Balanced handle trainer session)
    {request : CompileRequest} (number : tagged.tag.number = session.compiled) :
    Spares (· = id) session (session.did (.compile tagged.tag request) world id fun device =>
      { device with executable := some tagged }) := by
  refine spares_did (fun touched => absurd rfl touched) fun other found spared there =>
    receive_refreshesAt fun equal => ?_
  have old := balanced.registered.numbered other found there
  omega

end Receive

section Execute

variable {inputs : List Value} {optimizer : Option Descriptor}

/-- The trainer makes new weights, and those on the host are marked. -/
theorem Balanced.train (balanced : Balanced handle trainer session) (trains : trainer = some id)
    (there : (session.device id).executable = some tagged) :
    Balanced handle trainer (session.did (.execute tagged.tag inputs optimizer) world id
      fun device => { device with hostStale := true }) := by
  have role : tagged.tag.training = true := (balanced.registered.role id tagged there).mpr trains
  have ahead := balanced.ahead
  refine
    { hook := balanced.hook
      refreshes := ?_
      ahead := ?_
      stale := fun other chosen => ?_
      untrained := fun none => ?_
      registered := balanced.registered.did rfl
      unmarked := fun other => ?_
      undemanded := balanced.undemanded
      upToDate := balanced.upToDate.append_singleton ?_ }
  · simpa [Ledger.after_execute, Ledger.step, role] using balanced.refreshes
  · simp only [did_ledger, Ledger.after_execute, Ledger.step, role, if_true]
    omega
  · have same : other = id := by simpa [trains] using chosen.symm
    simp only [did_ledger, Ledger.after_execute, Ledger.step, role, if_true, did_device, same]
    simp only [true_iff]
    omega
  · have := none id trains
    simp [there] at this
  · rw [did_device]
    split
    · exact balanced.unmarked id
    · exact balanced.unmarked other
  · simp [Entry.inference?, role]

theorem spares_train :
    Spares (· = id) session (session.did (.execute tagged.tag inputs optimizer) world id
      fun device => { device with hostStale := true }) := by
  apply spares_did (fun _ => rfl)
  intro other found _ _
  rw [Ledger.after_execute, Ledger.step]
  split <;> rfl

/-- An execution that fails, or one that does not train, leaves all weights where they are. -/
theorem Balanced.ledger_execute {succeeded : Bool}
    (silent : succeeded = true → tagged.tag.training = false) :
    (session.asked (.execute tagged.tag inputs optimizer) succeeded world).ledger =
      session.ledger := by
  rw [ledger_asked]
  cases succeeded with
  | false => rfl
  | true => rw [Ledger.after_execute, Ledger.step, if_neg (by simp [silent rfl])]

/-- A device computes with its own weights. If it does not train, it has to have the last
refresh, and the host the newest weights. -/
theorem Balanced.execute (balanced : Balanced handle trainer session) {succeeded : Bool}
    (silent : succeeded = true → tagged.tag.training = false)
    (ready : tagged.tag.training = false →
      session.ledger.refreshesAt tagged.tag.number = session.ledger.refreshes ∧
        session.ledger.host = session.ledger.trainer) :
    Balanced handle trainer
      (session.asked (.execute tagged.tag inputs optimizer) succeeded world) := by
  have same : (session.asked (.execute tagged.tag inputs optimizer) succeeded world).ledger =
      session.ledger := Balanced.ledger_execute silent
  exact
    { hook := balanced.hook
      refreshes := by rw [same]; exact balanced.refreshes
      ahead := by rw [same]; exact balanced.ahead
      stale := by rw [same]; exact balanced.stale
      untrained := by rw [same]; exact balanced.untrained
      registered := balanced.registered.transfer (fun _ => rfl) (by
        simp only [compiled, asked, Journaled.asked, Journaled.write, List.countP_append]
        exact Nat.le_add_right _ _)
      unmarked := balanced.unmarked
      undemanded := balanced.undemanded
      upToDate := balanced.upToDate.append_singleton fun number infers => by
        obtain ⟨watches, rfl⟩ : tagged.tag.training = false ∧ tagged.tag.number = number := by
          simpa [Entry.inference?] using infers
        exact ready watches }

theorem spares_execute {succeeded : Bool}
    (silent : succeeded = true → tagged.tag.training = false) (touched : DeviceId → Prop) :
    Spares touched session
      (session.asked (.execute tagged.tag inputs optimizer) succeeded world) where
  journal := Journaled.grows_asked world session.world trivial
  next := rfl
  executable _ _ := rfl
  refreshesAt _ _ _ _ := by rw [Balanced.ledger_execute silent]

end Execute

/-- The host fetches the weights of the trainer. Only a fetch that nobody demanded is counted. -/
theorem Balanced.fetch {reached : Session P.journaled}
    (balanced : Balanced handle (some id) session) (demanded : Bool)
    (there : (session.device id).executable = some tagged)
    (entries : reached.world.entries =
      session.world.entries ++ [⟨.copyToHost tagged.tag, true, demanded⟩])
    (undemanded : reached.world.demanding = false)
    (devices : reached.devices = session.devices.update id.number fun device =>
      { device with hostStale := false })
    (hook : (reached.cell handle).hook = (session.cell handle).hook)
    (refreshes : (reached.cell handle).refreshes =
      (session.cell handle).refreshes + if demanded then 0 else 1) :
    Balanced handle (some id) reached := by
  have role : tagged.tag.training = true := (balanced.registered.role id tagged there).mpr rfl
  have ledger : reached.ledger = session.ledger.fetch tagged.tag demanded := by
    rw [Session.ledger, entries, Ledger.ofEntries_append_singleton]
    rfl
  have device (other : DeviceId) : reached.device other =
      if other = id then { session.device id with hostStale := false }
      else session.device other := by
    rw [← device_update session id other fun device => { device with hostStale := false }]
    simp only [Session.device, devices]
  refine
    { hook := hook.trans balanced.hook
      refreshes := ?_
      ahead := ?_
      stale := fun other chosen => ?_
      untrained := fun none => ?_
      registered := balanced.registered.transfer (fun other => ?_) ?_
      unmarked := fun other => ?_
      undemanded := undemanded
      upToDate := entries ▸ balanced.upToDate.append_singleton
        (by simp [Entry.inference?]) }
  · rw [refreshes, balanced.refreshes, ledger, Ledger.fetch]
    cases demanded <;> rfl
  · simp [ledger, Ledger.fetch, role]
  · have same : other = id := by simpa using chosen.symm
    simp [ledger, Ledger.fetch, role, device, same]
  · simp [ledger, Ledger.fetch, role]
  · rw [device]
    split
    · next here => rw [here]
    · rfl
  · rw [compiled, compiled, entries, List.countP_append]
    exact Nat.le_add_right _ _
  · rw [device]
    split
    · exact balanced.unmarked id
    · exact balanced.unmarked other

end Session

end Offload
