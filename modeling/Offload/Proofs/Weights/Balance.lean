/-
# The balance of a session

What the marks and counters of a session have to do with where the weights really are. A session
with one model and at most one trainer is balanced when its counter of refreshes is the one of
the ledger, when the mark of stale host weights stands exactly while the trainer is ahead of the
host, and when executables are told apart by their numbers. Idle steps keep the balance, and so
does refreshing the host: it ends, if it does not fail, with the newest weights on the host.

Beside the balance, `Spares` says which devices a step may not touch: the executables of all
others stay, and what they last received stays what it was.
-/

import Offload.Proofs.Executor.Compiling
import Offload.Proofs.Session.Step
import Offload.Proofs.Weights.Ledger

namespace Offload

namespace Session

variable {P : Platform}

/-- The ledger of the journal of a session. -/
def ledger (session : Session P.journaled) : Ledger := .ofEntries session.world.entries

theorem ledger_asked (operation : Operation) (succeeded : Bool) (world : P.World)
    (session : Session P.journaled) :
    (session.asked operation succeeded world).ledger =
      session.ledger.after ⟨operation, succeeded, session.world.demanding⟩ :=
  Ledger.ofEntries_append_singleton _ _

@[simp]
theorem did_ledger {operation : Operation} {world : P.World} {id : DeviceId}
    {change : Device P.journaled → Device P.journaled} {session : Session P.journaled} :
    (session.did operation world id change).ledger =
      session.ledger.after ⟨operation, true, session.world.demanding⟩ :=
  Ledger.ofEntries_append_singleton _ _

/-- No weights were made or moved, and nothing was executed. -/
structure Idles (handle : Handle) (before reached : Session P.journaled) : Prop where
  world : Journaled.Grows (fun entry => entry.isIdle) before.world reached.world
  hook : (reached.cell handle).hook = (before.cell handle).hook
  refreshes : (reached.cell handle).refreshes = (before.cell handle).refreshes
  devices : reached.devices = before.devices

variable {handle : Handle}

instance : IsPreorder (Session P.journaled) (Idles handle) where
  refl session := ⟨refl_of _ session.world, rfl, rfl, rfl⟩
  trans _ _ _ first second :=
    ⟨trans_of _ first.world second.world, second.hook.trans first.hook,
      second.refreshes.trans first.refreshes, second.devices.trans first.devices⟩

/-- Executables are told apart by their numbers, and only the one of the trainer trains. -/
structure Registered (trainer : Option DeviceId) (session : Session P.journaled) : Prop where
  role : ∀ id tagged, (session.device id).executable = some tagged →
    (tagged.tag.training = true ↔ trainer = some id)
  numbered : ∀ id tagged, (session.device id).executable = some tagged →
    tagged.tag.number < session.compiled
  distinct : ∀ id other tagged tagged', (session.device id).executable = some tagged →
    (session.device other).executable = some tagged' → tagged.tag.number = tagged'.tag.number →
      id = other

/-- The marks and counters of a session agree with its ledger. -/
structure Balanced (handle : Handle) (trainer : Option DeviceId) (session : Session P.journaled) :
    Prop where
  hook : (session.cell handle).hook = trainer.map .device
  refreshes : (session.cell handle).refreshes = session.ledger.refreshes
  /-- Training never falls behind the host. -/
  ahead : session.ledger.host ≤ session.ledger.trainer
  stale : ∀ id, trainer = some id →
    ((session.device id).hostStale = true ↔ session.ledger.host < session.ledger.trainer)
  /-- Nothing is trained before there is an executable to train with. -/
  untrained : (∀ id, trainer = some id → (session.device id).executable = none) →
    session.ledger.host = session.ledger.trainer
  registered : Registered trainer session
  unmarked : ∀ id, (session.device id).deviceStale = false
  undemanded : session.world.demanding = false
  upToDate : Ledger.UpToDate session.world.entries

/-- The journal grew; of all devices but those touched, the executables stayed and nothing was
received. -/
structure Spares (touched : DeviceId → Prop) (before reached : Session P.journaled) : Prop where
  journal : Journaled.Grows (fun _ => True) before.world reached.world
  next : reached.devices.next = before.devices.next
  executable : ∀ id, ¬ touched id →
    (reached.device id).executable = (before.device id).executable
  refreshesAt : ∀ id tagged, ¬ touched id → (before.device id).executable = some tagged →
    reached.ledger.refreshesAt tagged.tag.number = before.ledger.refreshesAt tagged.tag.number

instance (touched : DeviceId → Prop) : IsPreorder (Session P.journaled) (Spares touched) where
  refl session := ⟨refl_of _ session.world, rfl, fun _ _ => rfl, fun _ _ _ _ => rfl⟩
  trans _ _ _ first second :=
    ⟨trans_of _ first.journal second.journal, second.next.trans first.next,
      fun id spared => (second.executable id spared).trans (first.executable id spared),
      fun id tagged spared there =>
        (second.refreshesAt id tagged spared ((first.executable id spared).trans there)).trans
          (first.refreshesAt id tagged spared there)⟩

theorem Spares.mono {touched wider : DeviceId → Prop} {before reached : Session P.journaled}
    (spares : Spares touched before reached) (more : ∀ id, touched id → wider id) :
    Spares wider before reached where
  journal := spares.journal
  next := spares.next
  executable id spared := spares.executable id fun there => spared (more id there)
  refreshesAt id tagged spared := spares.refreshesAt id tagged fun there => spared (more id there)

/-- Only world and devices matter for what is spared. -/
theorem Spares.of_same {touched : DeviceId → Prop} {before reached other : Session P.journaled}
    (spares : Spares touched before reached) (world : other.world = reached.world)
    (devices : other.devices = reached.devices) : Spares touched before other where
  journal := world ▸ spares.journal
  next := devices ▸ spares.next
  executable id spared := by
    rw [Session.device, devices]
    exact spares.executable id spared
  refreshesAt id tagged spared there := by
    rw [Session.ledger, world]
    exact spares.refreshesAt id tagged spared there

section Idle

variable {trainer : Option DeviceId} {before reached : Session P.journaled}

/-- The journal went on with entries that say nothing of the weights. -/
def Silent (before reached : Session P.journaled) : Prop :=
  ∃ more, reached.world.entries = before.world.entries ++ more ∧ ∀ entry ∈ more, entry.isIdle

theorem Silent.ledger (silent : Silent before reached) : reached.ledger = before.ledger := by
  obtain ⟨more, grown, idle⟩ := silent
  rw [Session.ledger, Session.ledger, grown, Ledger.ofEntries_append_idle idle]

theorem Silent.compiled (silent : Silent before reached) : reached.compiled = before.compiled := by
  obtain ⟨more, grown, idle⟩ := silent
  have none : more.countP Entry.compiles = 0 := by
    rw [List.countP_eq_zero]
    exact fun entry there => by simp [Entry.not_compiles_of_isIdle (idle entry there)]
  rw [Session.compiled, Session.compiled, grown, List.countP_append, none, Nat.add_zero]

theorem Silent.upToDate (silent : Silent before reached)
    (upToDate : Ledger.UpToDate before.world.entries) :
    Ledger.UpToDate reached.world.entries := by
  obtain ⟨more, grown, idle⟩ := silent
  exact grown ▸ upToDate.append_idle idle

theorem Idles.silent (idles : Idles handle before reached) : Silent before reached := by
  obtain ⟨more, grown, idle⟩ := idles.world.entries
  exact ⟨more, grown, fun entry there => (idle entry there).2⟩

theorem Idles.device (idles : Idles handle before reached) (id : DeviceId) :
    reached.device id = before.device id := by
  rw [Session.device, Session.device, idles.devices]

/-- The register depends on the executables alone. -/
theorem Registered.transfer (registered : Registered trainer before)
    (executables : ∀ id, (reached.device id).executable = (before.device id).executable)
    (compiled : before.compiled ≤ reached.compiled) : Registered trainer reached where
  role id tagged there := registered.role id tagged (executables id ▸ there)
  numbered id tagged there :=
    Nat.lt_of_lt_of_le (registered.numbered id tagged (executables id ▸ there)) compiled
  distinct id other tagged tagged' there there' :=
    registered.distinct id other tagged tagged' (executables id ▸ there)
      (executables other ▸ there')

/-- What says nothing of the weights keeps the balance, if the marks and counters stay. -/
theorem Balanced.silent (balanced : Balanced handle trainer before) (silent : Silent before reached)
    (hook : (reached.cell handle).hook = (before.cell handle).hook)
    (refreshes : (reached.cell handle).refreshes = (before.cell handle).refreshes)
    (device : ∀ id, reached.device id = before.device id)
    (undemanded : reached.world.demanding = false) : Balanced handle trainer reached where
  hook := hook.trans balanced.hook
  refreshes := by rw [refreshes, silent.ledger, balanced.refreshes]
  ahead := by rw [silent.ledger]; exact balanced.ahead
  stale id chosen := by rw [device, silent.ledger]; exact balanced.stale id chosen
  untrained := by simpa only [device, silent.ledger] using balanced.untrained
  registered := balanced.registered.transfer (fun id => by rw [device])
    (Nat.le_of_eq silent.compiled.symm)
  unmarked id := by rw [device]; exact balanced.unmarked id
  undemanded := undemanded
  upToDate := silent.upToDate balanced.upToDate

/-- Idle steps keep the balance. -/
theorem Idles.balanced (idles : Idles handle before reached)
    (balanced : Balanced handle trainer before) : Balanced handle trainer reached :=
  balanced.silent idles.silent idles.hook idles.refreshes idles.device
    (idles.world.demanding.trans balanced.undemanded)

theorem Idles.spares (idles : Idles handle before reached) (touched : DeviceId → Prop) :
    Spares touched before reached where
  journal := idles.world.mono fun _ _ => trivial
  next := congrArg Store.next idles.devices
  executable id _ := congrArg Device.executable (idles.device id)
  refreshesAt _ _ _ _ := by rw [idles.silent.ledger]

/-- What is asked and says nothing of the weights is idle. -/
theorem idles_asked {operation : Operation} {succeeded : Bool} (world : P.World)
    (session : Session P.journaled)
    (idle : (⟨operation, succeeded, session.world.demanding⟩ : Entry).isIdle) :
    Idles handle session (session.asked operation succeeded world) :=
  ⟨Journaled.grows_asked world session.world idle, rfl, rfl, rfl⟩

end Idle

end Session

end Offload
