/-
# What moves the marks

Five things have to do with the marks of a device: its weights are fetched, it is sent weights, it
makes a training step, it gets an executable, and it is told that the weights on the host were
modified by hand. For each of them this module says that the session stays candid, and that wrappers
which were one-sided stay so. For the last one this takes that no training step is unsaved.
-/

import Offload.Proofs.Workshop.Marks

namespace Offload

open Attempt Session

variable {P : Platform} {posts : List Post} {trail : List Incident}
  {before reached : Session P.journaled} {number : Nat} {post : Post} {who : Option Nat}

/-- A fetch from a device that is marked spares what was modified by hand, for a wrapper that is
one-sided. -/
theorem Candid.spared_fetch (candid : Candid posts trail before) {id : DeviceId}
    {tagged own : Tagged P.Executable} {succeeded : Bool}
    (there : (before.device id).executable = some tagged)
    (allowed : before.world.demanding = true ∨ (before.device id).hostStale = true)
    (owns : posts[number]? = some post) (has : (before.device post.device).executable = some own)
    (sided : OneSided number post trail before) :
    Spared number own.tag trail
      (.asked ⟨who, .copyToHost tagged.tag, succeeded, before.world.demanding⟩) := by
  intro undemanded
  refine ⟨by simp, fun same unsent => ?_⟩
  have stale := allowed.resolve_left
    (by rw [show before.world.demanding = false from undemanded]; simp)
  have here : id = post.device := by
    refine candid.distinct _ _ _ _ there has ?_
    simpa using same
  exact sided.marks ⟨here ▸ stale, (candid.deviceStale number post owns).mpr unsent⟩

/-- Weights of a device were fetched. -/
theorem Candid.fetches (candid : Candid posts trail before) {id : DeviceId}
    {tagged : Tagged P.Executable} {world : P.World}
    (there : (before.device id).executable = some tagged)
    (allowed : before.world.demanding = true ∨ (before.device id).hostStale = true) :
    Upholds posts trail
      (trail ++ Incident.ofEntries who [⟨.copyToHost tagged.tag, true, before.world.demanding⟩])
      before (before.did (.copyToHost tagged.tag) world id fun device =>
        { device with hostStale := false }) := by
  have device (other : DeviceId) : (before.did (.copyToHost tagged.tag) world id fun device =>
      { device with hostStale := false }).device other =
      { before.device other with
        hostStale := (before.device other).hostStale && decide (other ≠ id) } := by
    rw [did_device]
    split
    · next same => simp [same]
    · next apart => simp [apart]
  refine candid.next rfl rfl (fun tag same => ?_) (fun other => by rw [device]) (fun other => ?_)
    (fun number post owns => ?_) (fun number post owns sided => ?_)
    fun number post own owns has sided => candid.spared_fetch there allowed owns has sided
  · obtain rfl := Option.some.inj same
    exact candid.numbered id tagged there
  · rw [device]
    simp only [Entry.trained, Entry.fetched, Entry.isOf, Operation.use?, Bool.and_eq_true,
      Bool.false_and, Bool.true_and, Bool.false_eq_true, and_false, exists_false, false_or,
      decide_eq_true_eq, decide_eq_false_iff_not, Option.some.injEq]
    refine and_congr_right fun stale => ⟨fun apart own has same => apart ?_, fun others same => ?_⟩
    · exact candid.distinct _ _ _ _ has there same.symm
    · exact others tagged (same ▸ there) rfl
  · rw [device]
    simp [Incident.sends]
  · rw [device]
    simp only [Bool.and_eq_true]
    exact fun both => sided.marks ⟨both.1.1, both.2⟩

section Own

variable {running : Running P.journaled} {tagged : Tagged P.Executable} {owner : Nat}

/-- A send to a device that is behind spares what was trained, for a wrapper that is one-sided. -/
theorem Candid.spared_send (candid : Candid posts trail running.session) {own : Tagged P.Executable}
    {succeeded : Bool} (mine : posts[owner]? = some running.executor.post)
    (there : Executor.executable? running = some tagged)
    (due : running.session.world.demanding = true ∨ Executor.Behind running)
    (has : (running.session.device post.device).executable = some own)
    (sided : OneSided number post trail running.session) :
    Spared number own.tag trail
      (.asked ⟨who, .copyToDevice tagged.tag, succeeded, running.session.world.demanding⟩) := by
  intro undemanded
  refine ⟨fun same unsaved => ?_, by simp⟩
  have behind := due.resolve_left
    (by rw [show running.session.world.demanding = false from undemanded]; simp)
  have same : tagged.tag = own.tag := by simpa using same
  have here := candid.distinct _ _ _ _ there has same
  rw [← candid.journal] at unsaved
  have stale := (candid.hostStale post.device).mpr ⟨own, has, unsaved⟩
  rcases behind with modified | ⟨watches, -⟩
  · exact sided.marks ⟨stale, here ▸ modified⟩
  · have trains := candid.role owner _ tagged mine there
    rw [same, unsaved.trains] at trains
    cases trains.trans watches

/-- A wrapper sent weights to its device. -/
theorem Candid.sends (candid : Candid posts trail running.session)
    (mine : posts[owner]? = some running.executor.post)
    (there : Executor.executable? running = some tagged)
    (due : running.session.world.demanding = true ∨ Executor.Behind running) {world : P.World} :
    Upholds posts trail
      (trail ++ Incident.ofEntries (some owner)
        [⟨.copyToDevice tagged.tag, true, running.session.world.demanding⟩])
      running.session (running.session.did (.copyToDevice tagged.tag) world running.executor.device
        fun device => { device with deviceStale := false }) := by
  have device (other : DeviceId) : (running.session.did (.copyToDevice tagged.tag) world
      running.executor.device fun device => { device with deviceStale := false }).device other =
      { running.session.device other with
        deviceStale := (running.session.device other).deviceStale &&
          decide (other ≠ running.executor.device) } := by
    rw [did_device]
    split
    · next same => simp [same]
    · next apart => simp [apart]
  refine candid.next rfl rfl (fun tag same => ?_) (fun other => by rw [device]) (fun other => ?_)
    (fun number post owns => ?_) (fun number post owns sided => ?_)
    fun _ _ _ _ has sided => candid.spared_send mine there due has sided
  · obtain rfl := Option.some.inj same
    exact candid.numbered _ tagged there
  · rw [device]
    simp [Entry.trained, Entry.fetched]
  · rw [device]
    simp only [Incident.sends, Bool.and_true, Bool.and_eq_true, decide_eq_true_eq,
      decide_eq_false_iff_not, Option.some.injEq]
    refine and_congr_right fun _ => not_congr ⟨fun same => ?_, fun same => ?_⟩
    · exact candid.apart _ _ _ _ mine owns same.symm
    · subst same
      rw [← Option.some.inj (mine.symm.trans owns)]
      rfl
  · rw [device]
    simp only [Bool.and_eq_true]
    exact fun both => sided.marks ⟨both.1, both.2.1⟩

/-- A wrapper trained on a device that was not marked as stale. -/
theorem Candid.trains (candid : Candid posts trail running.session)
    (mine : posts[owner]? = some running.executor.post)
    (there : Executor.executable? running = some tagged)
    (trains : running.executor.training = true)
    (settled : (running.session.device running.executor.device).deviceStale = false)
    {inputs : List Value} {optimizer : Option Descriptor} {world : P.World} :
    Upholds posts trail
      (trail ++ Incident.ofEntries (some owner)
        [⟨.execute tagged.tag inputs optimizer, true, running.session.world.demanding⟩])
      running.session
      (running.session.did (.execute tagged.tag inputs optimizer) world running.executor.device
        fun device => { device with hostStale := true }) := by
  have role : tagged.tag.training = true := (candid.role owner _ tagged mine there).trans trains
  have device (other : DeviceId) : (running.session.did (.execute tagged.tag inputs optimizer) world
      running.executor.device fun device => { device with hostStale := true }).device other =
      { running.session.device other with
        hostStale := (running.session.device other).hostStale ||
          decide (other = running.executor.device) } := by
    rw [did_device]
    split
    · next same => simp [same]
    · next apart => simp [apart]
  refine candid.next rfl rfl (fun tag same => ?_) (fun other => by rw [device]) (fun other => ?_)
    (fun number post owns => ?_) (fun number post owns sided => ?_)
    fun _ _ _ _ _ _ => spared_of_other (by simp) (by simp)
  · obtain rfl := Option.some.inj same
    exact candid.numbered _ tagged there
  · rw [device]
    simp only [Entry.trained, Entry.fetched, Entry.isOf, Operation.use?, role, Bool.and_true,
      Bool.true_and, Bool.false_and, Bool.or_eq_true, decide_eq_true_eq, Option.some.injEq,
      implies_true, and_true]
    rw [or_comm]
    refine or_congr_left ⟨fun same => ⟨tagged, same ▸ there, rfl⟩, ?_⟩
    rintro ⟨own, has, same⟩
    exact candid.distinct _ _ _ _ has there same.symm
  · rw [device]
    simp [Incident.sends]
  · rw [device]
    rintro ⟨stale, modified⟩
    dsimp only at stale modified
    rw [Bool.or_eq_true, decide_eq_true_eq] at stale
    rcases stale with stale | same
    · exact sided.marks ⟨stale, modified⟩
    · rw [same, settled] at modified
      cases modified

/-- The session in which an executable was compiled for a device. -/
def Session.fitted (session : Session P.journaled) (id : DeviceId) (tagged : Tagged P.Executable)
    (request : CompileRequest) (world : P.World) : Session P.journaled :=
  session.did (.compile tagged.tag request) world id
    fun device => { device with executable := some tagged }

section Fitted

variable {session : Session P.journaled} {id other : DeviceId} {request : CompileRequest}
  {world : P.World} {own : Tagged P.Executable}

theorem fitted_compiled :
    (session.fitted id tagged request world).compiled = session.compiled + 1 := by
  simp [fitted, Entry.compiles]

theorem fitted_device : (session.fitted id tagged request world).device other =
    { session.device other with
      executable := if other = id then some tagged else (session.device other).executable } := by
  rw [fitted, did_device]
  split
  · next same => simp [same]
  · rfl

/-- Its executable is the new one or an old one. -/
theorem executable_of_fitted
    (has : ((session.fitted id tagged request world).device other).executable = some own) :
    (other = id ∧ own = tagged) ∨ other ≠ id ∧ (session.device other).executable = some own := by
  rw [fitted_device] at has
  dsimp only at has
  split at has
  · next same => exact .inl ⟨same, (Option.some.inj has).symm⟩
  · next apart => exact .inr ⟨apart, has⟩

/-- No entry is about an executable that comes next. -/
theorem Candid.unused_next (candid : Candid posts trail session)
    (next : tagged.tag.number = session.compiled) :
    ∀ entry ∈ session.world.entries, entry.operation.use? ≠ some tagged.tag := by
  intro entry there uses
  have below := candid.used entry there _ uses
  omega

end Fitted

/-- Compiling for a wrapper without an executable keeps its session candid: the marks stay, and
nothing that was trained before is the new executable's own. -/
theorem Candid.fitted (candid : Candid posts trail running.session)
    (mine : posts[owner]? = some running.executor.post)
    (fresh : Executor.executable? running = none)
    (tag : tagged.tag = ⟨running.session.compiled, running.executor.training⟩)
    {request : CompileRequest} {world : P.World} :
    Candid posts
      (trail ++ Incident.ofEntries (some owner)
        [⟨.compile tagged.tag request, true, running.session.world.demanding⟩])
      (running.session.fitted running.executor.device tagged request world) := by
  have next : tagged.tag.number = running.session.compiled := congrArg Tag.number tag
  have entries :
      (running.session.fitted running.executor.device tagged request world).world.entries =
        running.session.world.entries ++
          [⟨.compile tagged.tag request, true, running.session.world.demanding⟩] := rfl
  refine
    { journal := by rw [entries, candid.journal]; simp [Incident.ofEntries]
      numbered := fun other own has => ?_
      used := fun entry there tag uses => ?_
      distinct := fun first second own own' has has' same => ?_
      apart := candid.apart
      role := fun number post own owns has => ?_
      hostStale := fun other => ?_
      deviceStale := fun number post owns => ?_ }
  · rw [fitted_compiled]
    rcases executable_of_fitted has with ⟨-, rfl⟩ | ⟨-, old⟩
    · omega
    · exact Nat.lt_succ_of_lt (candid.numbered other own old)
  · rw [fitted_compiled]
    rw [entries, List.mem_append, List.mem_singleton] at there
    rcases there with old | rfl
    · exact Nat.lt_succ_of_lt (candid.used entry old tag uses)
    · cases uses
  · rcases executable_of_fitted has with ⟨here, rfl⟩ | ⟨-, old⟩ <;>
      rcases executable_of_fitted has' with ⟨here', rfl⟩ | ⟨-, old'⟩
    · exact here.trans here'.symm
    · have below := candid.numbered _ _ old'
      rw [← same] at below
      omega
    · have below := candid.numbered _ _ old
      rw [same] at below
      omega
    · exact candid.distinct _ _ _ _ old old' same
  · rcases executable_of_fitted has with ⟨here, rfl⟩ | ⟨-, old⟩
    · obtain rfl := candid.apart _ _ _ _ owns mine here
      rw [tag, Option.some.inj (owns.symm.trans mine)]
      rfl
    · exact candid.role number post own owns old
  · rw [fitted_device, entries]
    dsimp only
    rw [candid.hostStale]
    simp only [unsaved_append_singleton]
    constructor
    · rintro ⟨own, old, unsaved⟩
      have apart : other ≠ running.executor.device := by
        rintro rfl
        cases fresh.symm.trans old
      exact ⟨own, by rw [if_neg apart, old], .inr ⟨unsaved, rfl⟩⟩
    · rintro ⟨own, has, trained | ⟨unsaved, -⟩⟩
      · cases trained
      · split at has
        · obtain rfl := Option.some.inj has
          exact absurd unsaved (not_unsaved_of_unused (candid.unused_next next))
        · exact ⟨own, has, unsaved⟩
  · rw [fitted_device, Unsent, Incident.ofEntries, List.map_singleton, since_append_singleton]
    have unchanged := candid.deviceStale number post owns
    rw [Unsent] at unchanged
    simpa [Incident.modifies, Incident.sends] using unchanged

/-- A wrapper without an executable was compiled. Its executable was never used before. -/
theorem Candid.compiles (candid : Candid posts trail running.session)
    (mine : posts[owner]? = some running.executor.post)
    (fresh : Executor.executable? running = none)
    (tag : tagged.tag = ⟨running.session.compiled, running.executor.training⟩)
    {request : CompileRequest} {world : P.World} :
    Upholds posts trail
      (trail ++ Incident.ofEntries (some owner)
        [⟨.compile tagged.tag request, true, running.session.world.demanding⟩])
      running.session (running.session.fitted running.executor.device tagged request world) := by
  refine ⟨candid.fitted mine fresh tag, fun number post owns sided => ?_⟩
  refine ⟨by rw [fitted_device]; exact sided.marks, fun own has => ?_⟩
  rw [Incident.ofEntries, List.map_singleton, eachAfter_append_singleton]
  refine ⟨?_, spared_of_other (by simp) (by simp)⟩
  rcases executable_of_fitted has with ⟨-, rfl⟩ | ⟨-, old⟩
  · exact spared_of_unused (candid.journal ▸ candid.unused_next (congrArg Tag.number tag))
  · exact sided.spared own old

/-- A modification was reported to a wrapper. If a training step is unsaved, both marks stand. -/
theorem Candid.marks (candid : Candid posts trail running.session)
    (mine : posts[owner]? = some running.executor.post)
    (marked : reached = { running.session with
      devices := running.session.devices.update running.executor.device.number fun device =>
        { device with deviceStale := true } }) :
    Candid posts (trail ++ [.modified owner]) reached ∧
      ∀ (number : Nat) (post : Post), posts[number]? = some post →
        OneSided number post trail running.session →
        (number = owner → (running.session.device post.device).hostStale = false) →
          OneSided number post (trail ++ [.modified owner]) reached := by
  have device (other : DeviceId) : reached.device other =
      { running.session.device other with
        deviceStale := (running.session.device other).deviceStale ||
          decide (other = running.executor.device) } := by
    rw [marked, device_update]
    split
    · next same => simp [same]
    · next apart => simp [apart]
  have entries : reached.world.entries = running.session.world.entries := by rw [marked]
  have compiled : reached.compiled = running.session.compiled := by
    rw [Session.compiled, entries, Session.compiled]
  -- the device that was marked is the device of its wrapper and of no other
  have here {number : Nat} {post : Post} (owns : posts[number]? = some post) :
      post.device = running.executor.device ↔ owner = number := by
    constructor
    · exact fun same => (candid.apart _ _ _ _ owns mine same).symm
    · rintro rfl
      rw [Option.some.inj (owns.symm.trans mine)]
      rfl
  constructor
  · refine candid.remarked (fun other => by rw [device]) compiled
      (by rw [entries, candid.journal]; simp) ?_ (fun other => ?_) fun number post owns => ?_
    · rw [entries]
      exact candid.used
    · rw [device, entries]
      exact candid.hostStale other
    · rw [device, Unsent, since_append_singleton, ← Unsent, ← candid.deviceStale number post owns]
      simp [Incident.modifies, Incident.sends, here owns, or_comm]
  · intro number post owns sided saved
    refine ⟨?_, fun own has => ?_⟩
    · rw [device]
      rintro ⟨stale, modified⟩
      dsimp only at stale modified
      rw [Bool.or_eq_true, decide_eq_true_eq, here owns] at modified
      rcases modified with modified | same
      · exact sided.marks ⟨stale, modified⟩
      · cases stale.symm.trans (saved same.symm)
    · rw [device] at has
      rw [eachAfter_append_singleton]
      exact ⟨sided.spared own has, trivial⟩

end Own

end Offload
