/-
# What the marks of a device say

The two marks of a device say that weights are newer on one side than on the other. What they should
say is read off the history alone: a training step is unsaved while no fetch from the device came
after it, and a modification by hand is unsent while nothing was sent to the device after it. In a
candid session the marks say just that, whatever fails and whoever fetches. A wrapper is one-sided
if its marks never stand both, and no copy that nobody demanded overwrites what is newer.

One more entry keeps a session candid if the marks follow it, and keeps a wrapper one-sided if it
spares what is newer. Entries that move no weights do both.
-/

import Offload.Proofs.Journal.Since
import Offload.Proofs.Workshop.Basic

namespace Offload

open Attempt Session

/-- What has to do with the weights of wrappers: an entry, or the report to a wrapper that weights
on the host were modified by hand. -/
inductive Incident where
  | asked (logged : Logged)
  | modified (number : Nat)

/-- The entry is about an executable. -/
def Entry.isOf (tag : Tag) (entry : Entry) : Bool := decide (entry.operation.use? = some tag)

/-- A training step of an executable was not fetched. -/
def Unsaved (tag : Tag) (entries : List Entry) : Prop :=
  Since (fun entry => entry.trained && entry.isOf tag)
    (fun entry => entry.fetched && entry.isOf tag)
    entries

namespace Incident

/-- The entries of some incidents. -/
def entries (trail : List Incident) : List Entry :=
  trail.filterMap fun
    | asked logged => some logged.entry
    | modified _ => none

/-- Entries of one origin as incidents. -/
def ofEntries (who : Option Nat) (entries : List Entry) : List Incident :=
  entries.map fun entry => asked ⟨who, entry⟩

/-- A modification was reported to the wrapper. -/
def modifies (number : Nat) : Incident → Bool
  | asked _ => false
  | modified owner => decide (owner = number)

/-- The wrapper sent weights to its device. -/
def sends (number : Nat) : Incident → Bool
  | asked ⟨who, ⟨.copyToDevice _, succeeded, _⟩⟩ => decide (who = some number) && succeeded
  | _ => false

end Incident

/-- A modification that was reported to a wrapper was not sent to its device. -/
def Unsent (number : Nat) (trail : List Incident) : Prop :=
  Since (Incident.modifies number) (Incident.sends number) trail

/-- The incident overwrites nothing that is newer, unless it was demanded: weights are sent to the
device of a wrapper only if no training step is unsaved, and fetched from it only if no modification
is unsent. -/
def Spared (number : Nat) (tag : Tag) (prior : List Incident) : Incident → Prop
  | .asked ⟨_, entry⟩ => entry.demanded = false →
      (entry.operation = .copyToDevice tag → ¬ Unsaved tag (Incident.entries prior)) ∧
        (entry.operation = .copyToHost tag → ¬ Unsent number prior)
  | .modified _ => True

section Decide

variable (tag : Tag) (number : Nat)

instance (entries : List Entry) : Decidable (Unsaved tag entries) :=
  inferInstanceAs (Decidable (Since _ _ entries))

instance (trail : List Incident) : Decidable (Unsent number trail) :=
  inferInstanceAs (Decidable (Since _ _ trail))

instance (operation : Operation) : Decidable (operation = .copyToDevice tag) :=
  match operation with
  | .copyToDevice other => decidable_of_iff (other = tag) (by simp)
  | .forward _ | .parameters | .layers | .castLayer _ _ | .trace _ | .script | .inferInput _ _
  | .castGraphLayer _ _ | .propagateShapes | .compile _ _ | .execute _ _ _ | .copyToHost _
  | .programText _ | .refresh => isFalse nofun

instance (operation : Operation) : Decidable (operation = .copyToHost tag) :=
  match operation with
  | .copyToHost other => decidable_of_iff (other = tag) (by simp)
  | .forward _ | .parameters | .layers | .castLayer _ _ | .trace _ | .script | .inferInput _ _
  | .castGraphLayer _ _ | .propagateShapes | .compile _ _ | .execute _ _ _ | .copyToDevice _
  | .programText _ | .refresh => isFalse nofun

instance (prior : List Incident) :
    (incident : Incident) → Decidable (Spared number tag prior incident)
  | .asked _ => inferInstanceAs (Decidable (_ → (_ → ¬ _) ∧ (_ → ¬ _)))
  | .modified _ => .isTrue trivial

end Decide

/-- What of a wrapper does not change: its device, and whether it trains. -/
structure Post where
  device : DeviceId
  training : Bool

/-- The post of an executor. -/
def Executor.post {P : Platform} (executor : Executor P) : Post :=
  ⟨executor.device, executor.training⟩

section Trail

variable {tag : Tag} {number : Nat}

@[simp]
theorem Incident.entries_append (trail later : List Incident) :
    entries (trail ++ later) = entries trail ++ entries later := List.filterMap_append

@[simp]
theorem Incident.entries_asked (logged : Logged) : entries [.asked logged] = [logged.entry] := rfl

@[simp]
theorem Incident.entries_modified (number : Nat) : entries [.modified number] = [] := rfl

/-- A training step is the only thing that leaves weights unsaved, and a fetch saves them. -/
theorem unsaved_append_singleton (entries : List Entry) (entry : Entry) :
    Unsaved tag (entries ++ [entry]) ↔ (entry.trained && entry.isOf tag) = true ∨
      Unsaved tag entries ∧ (entry.fetched && entry.isOf tag) = false :=
  since_append_singleton _ _

/-- Only an executable that trains has unsaved steps. -/
theorem Unsaved.trains {entries : List Entry} (unsaved : Unsaved tag entries) :
    tag.training = true := by
  obtain ⟨_, ⟨operation, succeeded, demanded⟩, _, _, trained, -⟩ := unsaved
  cases operation with
  | execute other inputs optimizer =>
      obtain ⟨⟨trains, -⟩, rfl⟩ : (other.training = true ∧ succeeded = true) ∧ other = tag := by
        simpa [Entry.trained, Entry.isOf, Operation.use?] using trained
      exact trains
  | _ => exact nomatch trained

/-- Nothing that was trained before an executable was compiled is its own. -/
theorem not_unsaved_of_unused {entries : List Entry}
    (unused : ∀ entry ∈ entries, entry.operation.use? ≠ some tag) : ¬ Unsaved tag entries := by
  rintro ⟨earlier, entry, later, rfl, trained, -⟩
  refine unused entry (by simp) ?_
  rw [Bool.and_eq_true] at trained
  exact of_decide_eq_true trained.2

/-- What happened before an executable was compiled spared it. -/
theorem spared_of_unused {trail : List Incident}
    (unused : ∀ entry ∈ Incident.entries trail, entry.operation.use? ≠ some tag) :
    EachAfter (Spared number tag) trail := by
  rintro prior (⟨who, entry⟩ | owner) there
  · have mem : entry ∈ Incident.entries trail :=
      List.mem_filterMap.mpr ⟨.asked ⟨who, entry⟩, there.subset (by simp), rfl⟩
    intro _
    refine ⟨fun same => ?_, fun same => ?_⟩ <;>
      exact absurd (by rw [same]; rfl) (unused entry mem)
  · trivial

end Trail

variable {P : Platform} {posts : List Post} {trail later : List Incident}
  {before reached : Session P.journaled} {number : Nat} {post : Post}

/-- The marks of a session say what its history says, and executables are told apart. -/
structure Candid (posts : List Post) (trail : List Incident) (session : Session P.journaled) :
    Prop where
  journal : session.world.entries = Incident.entries trail
  numbered : ∀ id tagged, (session.device id).executable = some tagged →
    tagged.tag.number < session.compiled
  used : ∀ entry ∈ session.world.entries, ∀ tag, entry.operation.use? = some tag →
    tag.number < session.compiled
  distinct : ∀ id other tagged tagged', (session.device id).executable = some tagged →
    (session.device other).executable = some tagged' → tagged.tag = tagged'.tag → id = other
  apart : ∀ (number other : Nat) (post post' : Post), posts[number]? = some post →
    posts[other]? = some post' → post.device = post'.device → number = other
  role : ∀ (number : Nat) (post : Post) tagged, posts[number]? = some post →
    (session.device post.device).executable = some tagged → tagged.tag.training = post.training
  /-- The host is marked as stale while a training step is unsaved. -/
  hostStale : ∀ id, (session.device id).hostStale = true ↔
    ∃ tagged, (session.device id).executable = some tagged ∧
      Unsaved tagged.tag session.world.entries
  /-- The device is marked as stale while a modification is unsent. -/
  deviceStale : ∀ (number : Nat) (post : Post), posts[number]? = some post →
    ((session.device post.device).deviceStale = true ↔ Unsent number trail)

/-- At most one mark of the wrapper stands, and nothing newer was overwritten. -/
structure OneSided (number : Nat) (post : Post) (trail : List Incident)
    (session : Session P.journaled) : Prop where
  marks : ¬ ((session.device post.device).hostStale = true ∧
    (session.device post.device).deviceStale = true)
  spared : ∀ tagged, (session.device post.device).executable = some tagged →
    EachAfter (Spared number tagged.tag) trail

/-- The session stays candid, and wrappers that were one-sided stay so. -/
structure Upholds (posts : List Post) (trail later : List Incident)
    (before reached : Session P.journaled) : Prop where
  candid : Candid posts later reached
  oneSided : ∀ (number : Nat) (post : Post), posts[number]? = some post →
    OneSided number post trail before → OneSided number post later reached

theorem Candid.stays (candid : Candid posts trail before) :
    Upholds posts trail trail before before :=
  ⟨candid, fun _ _ _ => id⟩

theorem Upholds.trans {middle : Session P.journaled} {last : List Incident}
    (first : Upholds posts trail later before middle)
    (second : Upholds posts later last middle reached) : Upholds posts trail last before reached :=
  ⟨second.candid, fun number post there sided =>
    second.oneSided number post there (first.oneSided number post there sided)⟩

/-- Where the executables stay, only the journal and the marks can change. -/
theorem Candid.remarked (candid : Candid posts trail before)
    (executable : ∀ id, (reached.device id).executable = (before.device id).executable)
    (compiled : reached.compiled = before.compiled)
    (journal : reached.world.entries = Incident.entries later)
    (used : ∀ entry ∈ reached.world.entries, ∀ tag, entry.operation.use? = some tag →
      tag.number < before.compiled)
    (hostStale : ∀ id, (reached.device id).hostStale = true ↔
      ∃ tagged, (before.device id).executable = some tagged ∧
        Unsaved tagged.tag reached.world.entries)
    (deviceStale : ∀ (number : Nat) (post : Post), posts[number]? = some post →
      ((reached.device post.device).deviceStale = true ↔ Unsent number later)) :
    Candid posts later reached where
  journal := journal
  numbered id tagged there := by
    rw [compiled]
    exact candid.numbered id tagged (executable id ▸ there)
  used := by
    rw [compiled]
    exact used
  distinct id other tagged tagged' there there' :=
    candid.distinct id other tagged tagged' (executable id ▸ there) (executable other ▸ there')
  apart := candid.apart
  role number post tagged there has :=
    candid.role number post tagged there (executable post.device ▸ has)
  hostStale id := by
    rw [executable]
    exact hostStale id
  deviceStale := deviceStale

/-- Only the journal and the devices matter. -/
theorem Candid.same (candid : Candid posts trail before)
    (entries : reached.world.entries = before.world.entries)
    (devices : reached.devices = before.devices) : Upholds posts trail trail before reached := by
  have device : reached.device = before.device := funext fun id => by
    rw [Session.device, Session.device, devices]
  have compiled : reached.compiled = before.compiled := by
    rw [Session.compiled, Session.compiled, entries]
  constructor
  · refine candid.remarked (fun id => by rw [device]) compiled (entries.trans candid.journal) ?_ ?_ ?_
    · rw [entries]
      exact candid.used
    · rw [device, entries]
      exact candid.hostStale
    · rw [device]
      exact candid.deviceStale
  · intro number post _ sided
    exact ⟨by rw [device]; exact sided.marks, by rw [device]; exact sided.spared⟩

section Entry

variable {entry : Entry} {who : Option Nat}

/-- One more entry, which compiles nothing. The marks have to follow it, and it has to spare what is
newer. -/
theorem Candid.next (candid : Candid posts trail before)
    (grown : reached.world.entries = before.world.entries ++ [entry])
    (silent : entry.compiles = false)
    (uses : ∀ tag, entry.operation.use? = some tag → tag.number < before.compiled)
    (executable : ∀ id, (reached.device id).executable = (before.device id).executable)
    (hostStale : ∀ id, (reached.device id).hostStale = true ↔
      (∃ tagged, (before.device id).executable = some tagged ∧
        (entry.trained && entry.isOf tagged.tag) = true) ∨
      (before.device id).hostStale = true ∧ ∀ tagged,
        (before.device id).executable = some tagged →
          (entry.fetched && entry.isOf tagged.tag) = false)
    (deviceStale : ∀ (number : Nat) (post : Post), posts[number]? = some post →
      ((reached.device post.device).deviceStale = true ↔
        (before.device post.device).deviceStale = true ∧
          Incident.sends number (.asked ⟨who, entry⟩) = false))
    (marks : ∀ (number : Nat) (post : Post), posts[number]? = some post →
      OneSided number post trail before → ¬ ((reached.device post.device).hostStale = true ∧
        (reached.device post.device).deviceStale = true))
    (spared : ∀ (number : Nat) (post : Post) tagged, posts[number]? = some post →
      (before.device post.device).executable = some tagged → OneSided number post trail before →
        Spared number tagged.tag trail (.asked ⟨who, entry⟩)) :
    Upholds posts trail (trail ++ [.asked ⟨who, entry⟩]) before reached := by
  have compiled : reached.compiled = before.compiled := by
    rw [Session.compiled, Session.compiled, grown, List.countP_append]
    simp [silent]
  constructor
  · refine candid.remarked executable compiled (by rw [grown, candid.journal]; simp)
      (fun other there tag uses' => ?_) (fun id => ?_) fun number post there => ?_
    · rw [grown, List.mem_append, List.mem_singleton] at there
      rcases there with old | rfl
      · exact candid.used other old tag uses'
      · exact uses tag uses'
    · rw [hostStale, candid.hostStale, grown]
      simp only [unsaved_append_singleton]
      -- the mark speaks of the executable of the device, and a device has only one
      constructor
      · rintro (⟨tagged, there, trained⟩ | ⟨⟨tagged, there, unsaved⟩, unfetched⟩)
        · exact ⟨tagged, there, .inl trained⟩
        · exact ⟨tagged, there, .inr ⟨unsaved, unfetched tagged there⟩⟩
      · rintro ⟨tagged, there, trained | ⟨unsaved, unfetched⟩⟩
        · exact .inl ⟨tagged, there, trained⟩
        · refine .inr ⟨⟨tagged, there, unsaved⟩, fun other other_there => ?_⟩
          rwa [← Option.some.inj (there.symm.trans other_there)]
    · rw [deviceStale number post there, candid.deviceStale number post there, Unsent, Unsent,
        since_append_singleton]
      simp [Incident.modifies]
  · intro number post there sided
    refine ⟨marks number post there sided, fun tagged has => ?_⟩
    rw [executable] at has
    rw [eachAfter_append_singleton]
    exact ⟨sided.spared tagged has, spared number post tagged there has sided⟩

/-- Something was asked that moved no weights and trained nothing. -/
theorem Candid.asks (candid : Candid posts trail before) {operation : Operation} {succeeded : Bool}
    {world : P.World}
    (silent : (⟨operation, succeeded, before.world.demanding⟩ : Entry).compiles = false)
    (uses : ∀ tag, operation.use? = some tag → tag.number < before.compiled)
    (untrained : (⟨operation, succeeded, before.world.demanding⟩ : Entry).trained = false)
    (unfetched : (⟨operation, succeeded, before.world.demanding⟩ : Entry).fetched = false)
    (unsent : ∀ number, Incident.sends number
      (.asked ⟨who, operation, succeeded, before.world.demanding⟩) = false)
    (spared : ∀ (number : Nat) (post : Post) tagged, posts[number]? = some post →
      (before.device post.device).executable = some tagged → OneSided number post trail before →
        Spared number tagged.tag trail
          (.asked ⟨who, operation, succeeded, before.world.demanding⟩)) :
    Upholds posts trail
      (trail ++ Incident.ofEntries who [⟨operation, succeeded, before.world.demanding⟩]) before
      (before.asked operation succeeded world) := by
  refine candid.next rfl silent uses (fun _ => rfl) (fun id => ?_) (fun number post there => ?_)
    (fun number post there sided => sided.marks) spared
  · rw [untrained, unfetched]
    simp [asked, Session.device]
  · rw [unsent]
    simp [asked, Session.device]

/-- What is no copy spares everything. -/
theorem spared_of_other {tag : Tag} {prior : List Incident} {logged : Logged}
    (sends : ∀ tag, logged.entry.operation ≠ .copyToDevice tag)
    (fetches : ∀ tag, logged.entry.operation ≠ .copyToHost tag) :
    Spared number tag prior (.asked logged) :=
  fun _ => ⟨fun same => absurd same (sends tag), fun same => absurd same (fetches tag)⟩

end Entry

end Offload
