/-
# What an executor leaves in the journal

A deed adds entries to the journal, and each is `Warranted` by the state that the deed found: a
graph is captured and handed over only while there is no executable, weights are moved and a
program is read only with the executable of the device, and the weights of another device are
fetched only if they are ahead of the host. What every warranted entry has in common, the entries
of a chain of deeds have in common.
-/

import Offload.Proofs.Executor.Deed

namespace Offload

open Attempt Session

/-- The inputs that a graph was handed over with for compilation. -/
def Entry.handed? (entry : Entry) : Option (List Value) :=
  match entry.operation with
  | .compile _ request => some request.inputs
  | _ => none

/-- The inputs of an execution. -/
def Entry.executed? (entry : Entry) : Option (List Value) :=
  match entry.operation with
  | .execute _ inputs _ => some inputs
  | _ => none

namespace Entry

theorem compiles_of_use {entry : Entry} {tag : Tag} (uses : entry.operation.use? = some tag) :
    entry.compiles = false := by
  obtain ⟨operation, succeeded, demanded⟩ := entry
  cases operation <;> first | rfl | exact nomatch uses

/-- An errand hands nothing over and executes nothing. -/
theorem unused_of_errand {entry : Entry} {capturing : Bool}
    (errand : entry.operation.isErrand capturing = true) :
    entry.handed? = none ∧ entry.executed? = none := by
  obtain ⟨operation, succeeded, demanded⟩ := entry
  cases operation <;> first | exact ⟨rfl, rfl⟩ | exact nomatch errand

theorem compiles_of_errand {entry : Entry} {capturing : Bool}
    (errand : entry.operation.isErrand capturing = true) : entry.compiles = false := by
  obtain ⟨operation, succeeded, demanded⟩ := entry
  cases operation <;> first | rfl | exact nomatch errand

end Entry

namespace Executor

variable {P : Platform} {binding : Binding} {before reached : Running P.journaled}

/-- The entries that were added from one state to a later one. -/
def added (before reached : Running P.journaled) : List Entry :=
  reached.session.world.entries.drop before.session.world.entries.length

theorem added_of_grown {more : List Entry}
    (grown : reached.session.world.entries = before.session.world.entries ++ more) :
    added before reached = more := by
  rw [added, grown, List.drop_left]

/-- Why a deed adds an entry, by the state that it found. -/
inductive Warranted (binding : Binding) (before : Running P.journaled) : Entry → Prop where
  /-- The platform was asked something that neither compiles nor uses an executable. -/
  | errand (entry : Entry) (errand : entry.operation.isErrand false = true) :
      Warranted binding before entry
  /-- There is no executable yet, and the subject may be captured. -/
  | captures (entry : Entry) (errand : entry.operation.isErrand true = true)
      (fresh : executable? before = none) : Warranted binding before entry
  /-- The host was behind some device. -/
  | owed (entry : Entry) (owes : before.session.Owes entry.operation) :
      Warranted binding before entry
  | handed (table : OptionTable) (views : Views) (inputs : Binding) (tag : Tag)
      (succeeded demanded : Bool) (fresh : executable? before = none)
      (drafted : draft before.executor.options binding = .ok (table, views))
      (picks : Picks before.executor views inputs)
      (numbered : succeeded = true →
        tag = ⟨before.session.compiled, before.executor.training⟩) :
      Warranted binding before
        ⟨.compile tag (requestOf before.executor table inputs), succeeded, demanded⟩
  | sent (tagged : Tagged P.Executable) (succeeded : Bool) (there : executable? before = some tagged)
      (allowed : before.session.world.demanding = true ∨ Connects before.executor) :
      Warranted binding before
        ⟨.copyToDevice tagged.tag, succeeded, before.session.world.demanding⟩
  | fetched (tagged : Tagged P.Executable) (succeeded : Bool)
      (there : executable? before = some tagged)
      (demanded : before.session.world.demanding = true) :
      Warranted binding before
        ⟨.copyToHost tagged.tag, succeeded, before.session.world.demanding⟩
  | read (tagged : Tagged P.Executable) (succeeded demanded : Bool)
      (there : executable? before = some tagged) :
      Warranted binding before ⟨.programText tagged.tag, succeeded, demanded⟩

/-- No device got an executable, none fell ahead of the host, and no device is new. -/
structure Stays (before reached : Session P.journaled) : Prop where
  next : reached.devices.next = before.devices.next
  executable : ∀ id, (reached.device id).executable = (before.device id).executable
  hostStale : ∀ id, (reached.device id).hostStale = true → (before.device id).hostStale = true

theorem stays_of_devices {before reached : Session P.journaled}
    (same : reached.devices = before.devices) : Stays before reached where
  next := by rw [same]
  executable id := by rw [Session.device, Session.device, same]
  hostStale id stale := by
    rw [Session.device, same] at stale
    exact stale

/-- Marks of one device that was not found ahead of the host were changed. -/
theorem stays_did {before : Session P.journaled} {operation : Operation} {world : P.World}
    {id : DeviceId} {change : Device P.journaled → Device P.journaled}
    (executable : ∀ device, (change device).executable = device.executable)
    (hostStale : ∀ device, (change device).hostStale = true → device.hostStale = true) :
    Stays before (before.did operation world id change) where
  next := rfl
  executable other := by
    rw [did_device]
    split
    · next same => rw [executable, same]
    · rfl
  hostStale other stale := by
    rw [did_device] at stale
    split at stale
    · next same => exact same ▸ hostStale _ stale
    · exact stale

/-- What was asked on the way is warranted and compiles nothing. -/
theorem warranted_of_ran {capturing : Bool} {session : Session P.journaled}
    (ran : Ran capturing before.session session)
    (fresh : capturing = true → executable? before = none) :
    Stays before.session session ∧
      Journaled.Grows (fun entry => Warranted binding before entry ∧ entry.compiles = false)
        before.session.world session.world := by
  obtain ⟨more, grown, each⟩ := ran.entries
  refine ⟨⟨ran.next, ran.executable, ran.hostStale⟩, ran.demanding, more, grown,
    fun entry there => (each entry there).imp_right ?_⟩
  rintro (errand | owes)
  · refine ⟨?_, Entry.compiles_of_errand errand⟩
    cases capturing with
    | false => exact .errand entry errand
    | true => exact .captures entry errand (fresh rfl)
  · refine ⟨.owed entry owes, ?_⟩
    obtain ⟨_, tagged, -, -, same⟩ := owes
    exact Entry.compiles_of_use (congrArg Operation.use? same)

/-- A deed adds warranted entries. Unless it is a compilation that succeeds, it compiles nothing and
no device gets an executable. -/
theorem Does.effect (does : Does binding before reached)
    (journaled : before.executor.subject.IsJournaled) :
    (Stays before.session reached.session ∧
      Journaled.Grows (fun entry => Warranted binding before entry ∧ entry.compiles = false)
        before.session.world reached.session.world) ∨
      ∃ (table : OptionTable) (views : Views) (inputs : Binding) (tagged : Tagged P.Executable)
        (world : P.World), Executor.executable? before = none ∧
        draft before.executor.options binding = .ok (table, views) ∧
        Picks before.executor views inputs ∧
        tagged.tag = ⟨before.session.compiled, before.executor.training⟩ ∧
        reached = install tagged { before with
          session := before.session.asked
            (.compile tagged.tag (requestOf before.executor table inputs)) true world } := by
  have idle {session : Session P.journaled} (world : session.world = before.session.world)
      (stays : Stays before.session session) :
      Stays before.session session ∧
        Journaled.Grows (fun entry => Warranted binding before entry ∧ entry.compiles = false)
          before.session.world session.world := by
    rw [world]
    exact ⟨stays, refl_of (Journaled.Grows _) before.session.world⟩
  cases does with
  | tells _ tells =>
      obtain ⟨notices, warned, rfl⟩ := tells
      exact .inl (idle rfl (stays_of_devices rfl))
  | prepares _ fresh prepares =>
      exact .inl (warranted_of_ran (prepares.errands journaled).ran fun _ => fresh)
  | refused table views inputs tag world fresh drafted picks =>
      exact .inl ⟨stays_of_devices rfl, Journaled.grows_asked world _
        ⟨.handed table views inputs tag false _ fresh drafted picks nofun, rfl⟩⟩
  | compiled table views inputs tagged world fresh drafted picks tag =>
      exact .inr ⟨table, views, inputs, tagged, world, fresh, drafted, picks, tag, rfl⟩
  | refreshes session errands => exact .inl (warranted_of_ran errands.ran nofun)
  | notes refreshes => exact .inl (idle rfl (stays_of_devices rfl))
  | sends tagged world there allowed =>
      exact .inl ⟨stays_did (fun _ => rfl) fun _ => id,
        Journaled.grows_asked world _ ⟨.sent tagged true there allowed, rfl⟩⟩
  | withholds tagged world there allowed =>
      exact .inl ⟨stays_of_devices rfl,
        Journaled.grows_asked world _ ⟨.sent tagged false there allowed, rfl⟩⟩
  | fetches tagged world there demanded =>
      exact .inl ⟨stays_did (fun _ => rfl) fun _ => nofun,
        Journaled.grows_asked world _ ⟨.fetched tagged true there demanded, rfl⟩⟩
  | misses tagged world there demanded =>
      exact .inl ⟨stays_of_devices rfl,
        Journaled.grows_asked world _ ⟨.fetched tagged false there demanded, rfl⟩⟩
  | reads tagged succeeded world there =>
      exact .inl ⟨stays_of_devices rfl,
        Journaled.grows_asked world _ ⟨.read tagged succeeded _ there, rfl⟩⟩

theorem Does.warranted (does : Does binding before reached)
    (journaled : before.executor.subject.IsJournaled) :
    Journaled.Grows (Warranted binding before) before.session.world reached.session.world := by
  rcases does.effect journaled with
    ⟨-, grows⟩ | ⟨table, views, inputs, tagged, world, fresh, drafted, picks, tag, rfl⟩
  · exact grows.mono fun _ => And.left
  · exact Journaled.grows_asked world _
      (.handed table views inputs tagged.tag true _ fresh drafted picks fun _ => tag)

/-- What every entry has that is warranted in the role of the executor, a chain of deeds adds
only such entries. -/
theorem Deeds.grows {allowed : Entry → Prop} (deeds : Deeds binding before reached)
    (journaled : before.executor.subject.IsJournaled)
    (each : ∀ {state : Running P.journaled} {entry : Entry},
      SameRole before.executor state.executor → Warranted binding state entry → allowed entry) :
    Journaled.Grows allowed before.session.world reached.session.world := by
  induction deeds with
  | refl => exact refl_of (Journaled.Grows _) before.session.world
  | tail earlier does ih =>
      have role := Deeds.role earlier
      exact trans_of (Journaled.Grows _) ih
        ((does.warranted (role.journaled journaled)).mono fun _ => each role)

/-- No deed executes. -/
theorem Warranted.unexecuted {entry : Entry} (warranted : Warranted binding before entry) :
    entry.executed? = none := by
  cases warranted with
  | errand _ errand => exact (Entry.unused_of_errand errand).2
  | captures _ errand => exact (Entry.unused_of_errand errand).2
  | owed _ owes =>
      obtain ⟨_, tagged, -, -, same⟩ := owes
      rw [Entry.executed?, same]
  | _ => rfl

/-- A chain of deeds executes nothing. -/
theorem Deeds.unexecuted (deeds : Deeds binding before reached)
    (journaled : before.executor.subject.IsJournaled) :
    Journaled.Grows (fun entry => entry.executed? = none) before.session.world
      reached.session.world :=
  deeds.grows journaled fun _ => Warranted.unexecuted

/-- Once there is an executable, a chain of deeds adds only entries that are warranted with it. -/
theorem Deeds.grows_compiled {allowed : Entry → Prop} {tagged : Tagged P.Executable}
    (deeds : Deeds binding before reached) (journaled : before.executor.subject.IsJournaled)
    (there : Executor.executable? before = some tagged)
    (each : ∀ {state : Running P.journaled} {entry : Entry},
      Executor.executable? state = some tagged → Warranted binding state entry → allowed entry) :
    Journaled.Grows allowed before.session.world reached.session.world := by
  induction deeds with
  | refl => exact refl_of (Journaled.Grows _) before.session.world
  | tail earlier does ih =>
      have grows := does.warranted ((Deeds.role earlier).journaled journaled)
      exact trans_of (Journaled.Grows _) ih
        (grows.mono fun _ => each (Deeds.executable? earlier there))

/-- An execution adds its entry, whatever the outcome. -/
theorem Executes.entries {inputs : List Value} {succeeded : Bool}
    (executes : Executes inputs before succeeded reached) :
    ∃ tagged, executable? before = some tagged ∧ reached.session.world.entries =
      before.session.world.entries ++ [⟨.execute tagged.tag inputs (toPush before.executor),
        succeeded, before.session.world.demanding⟩] := by
  cases executes with
  | succeeds tagged world there =>
      refine ⟨tagged, there, ?_⟩
      unfold executedSession
      dsimp only
      split <;> rfl
  | fails tagged world there => exact ⟨tagged, there, rfl⟩

end Executor

end Offload
