/-
# Wrappers keep their marks candid

Everything that a wrapper does leaves its session candid, and leaves every wrapper one-sided that
was so, short of a modification that is reported to it while a training step is unsaved. What is
proved of single entries is put together here along errands, deeds and executions, then for a whole
task.
-/

import Offload.Proofs.Executor.Work
import Offload.Proofs.Workshop.Movement

namespace Offload

open Attempt Session

variable {P : Platform} {posts : List Post} {trail : List Incident} {who : Option Nat}

/-- The session went on with entries of one origin, and upholds what it did. -/
structure Goes (posts : List Post) (trail : List Incident) (who : Option Nat)
    (before reached : Session P.journaled) (more : List Entry) : Prop where
  grown : reached.world.entries = before.world.entries ++ more
  upholds : Upholds posts trail (trail ++ Incident.ofEntries who more) before reached

section Goes

variable {before middle reached : Session P.journaled}

theorem Candid.goes (candid : Candid posts trail before) : Goes posts trail who before before [] :=
  ⟨(List.append_nil _).symm, by simpa [Incident.ofEntries] using candid.stays⟩

theorem Goes.then {more later : List Entry} (goes : Goes posts trail who before middle more)
    (next : Goes posts (trail ++ Incident.ofEntries who more) who middle reached later) :
    Goes posts trail who before reached (more ++ later) where
  grown := by rw [next.grown, goes.grown, List.append_assoc]
  upholds := by
    have both := goes.upholds.trans next.upholds
    rwa [List.append_assoc, Incident.ofEntries, Incident.ofEntries, ← List.map_append] at both

/-- Only the journal and the devices matter. -/
theorem Candid.goes_same (candid : Candid posts trail before)
    (entries : reached.world.entries = before.world.entries)
    (devices : reached.devices = before.devices) : Goes posts trail who before reached [] where
  grown := by rw [entries, List.append_nil]
  upholds := by simpa [Incident.ofEntries] using candid.same entries devices

/-- Something was asked that is no copy and makes nothing. -/
theorem Candid.goes_asked (candid : Candid posts trail before) {operation : Operation}
    {succeeded : Bool} {world : P.World}
    (uses : ∀ tag, operation.use? = some tag → tag.number < before.compiled)
    (silent : (⟨operation, succeeded, before.world.demanding⟩ : Entry).compiles = false)
    (untrained : (⟨operation, succeeded, before.world.demanding⟩ : Entry).trained = false)
    (sends : ∀ tag, operation ≠ .copyToDevice tag) (fetches : ∀ tag, operation ≠ .copyToHost tag) :
    Goes posts trail who before (before.asked operation succeeded world)
      [⟨operation, succeeded, before.world.demanding⟩] where
  grown := rfl
  upholds := by
    refine candid.asks silent uses untrained ?_ (fun number => ?_) fun _ _ _ _ _ _ =>
      spared_of_other sends fetches
    · cases operation <;> first | rfl | exact absurd rfl (fetches _)
    · cases operation <;> first | rfl | exact absurd rfl (sends _)

/-- An attempt to fetch weights from a device that is marked, or on demand, failed. -/
theorem Candid.goes_missed (candid : Candid posts trail before) {id : DeviceId}
    {tagged : Tagged P.Executable} {world : P.World}
    (there : (before.device id).executable = some tagged)
    (allowed : before.world.demanding = true ∨ (before.device id).hostStale = true) :
    Goes posts trail who before (before.asked (.copyToHost tagged.tag) false world)
      [⟨.copyToHost tagged.tag, false, before.world.demanding⟩] where
  grown := rfl
  upholds := by
    refine candid.asks rfl (fun tag same => ?_) rfl rfl (fun _ => rfl) fun _ _ _ owns has sided =>
      candid.spared_fetch there allowed owns has sided
    obtain rfl := Option.some.inj same
    exact candid.numbered id tagged there

theorem Candid.errand {capturing : Bool} (candid : Candid posts trail before)
    (errand : Errand capturing before reached) :
    ∃ more, Goes posts trail who before reached more := by
  cases errand with
  | turns world notices models hooks => exact ⟨[], candid.goes_same rfl rfl⟩
  | asks operation succeeded world errand =>
      refine ⟨_, candid.goes_asked (fun tag uses => ?_) ?_ ?_ (fun tag same => ?_)
        fun tag same => ?_⟩
      · exact nomatch (Operation.use?_of_isErrand errand).symm.trans uses
      · cases operation <;> first | rfl | exact nomatch errand
      · cases operation <;> first | rfl | exact nomatch errand
      · exact nomatch same ▸ errand
      · exact nomatch same ▸ errand
  | misses id tagged world stale there => exact ⟨_, candid.goes_missed there (.inr stale)⟩
  | fetches id tagged world stale there => exact ⟨_, rfl, candid.fetches there (.inr stale)⟩

theorem Candid.errands {capturing : Bool} (candid : Candid posts trail before)
    (errands : Errands capturing before reached) :
    ∃ more, Goes posts trail who before reached more := by
  induction errands with
  | refl => exact ⟨[], candid.goes⟩
  | tail _ errand ih =>
      obtain ⟨more, goes⟩ := ih
      obtain ⟨later, next⟩ := goes.upholds.candid.errand errand
      exact ⟨more ++ later, goes.then next⟩

end Goes

namespace Executor

variable {binding : Binding} {before reached : Running P.journaled} {owner : Nat}

theorem SameRole.post {executor other : Executor P.journaled} (role : SameRole executor other) :
    other.post = executor.post := by
  rw [Executor.post, Executor.post, role.device, role.training]

theorem Does.goes (does : Does binding before reached)
    (journaled : before.executor.subject.IsJournaled)
    (mine : posts[owner]? = some before.executor.post)
    (candid : Candid posts trail before.session) :
    ∃ more, Goes posts trail (some owner) before.session reached.session more := by
  have numbered {tagged : Tagged P.Executable} (there : Executor.executable? before = some tagged)
      (tag : Tag) (same : some tagged.tag = some tag) : tag.number < before.session.compiled := by
    obtain rfl := Option.some.inj same
    exact candid.numbered _ tagged there
  cases does with
  | tells _ tells =>
      obtain ⟨notices, warned, rfl⟩ := tells
      exact ⟨[], candid.goes_same rfl rfl⟩
  | prepares _ fresh prepares => exact candid.errands (prepares.errands journaled)
  | refused table views inputs tag world fresh drafted picks =>
      exact ⟨_, candid.goes_asked (by rintro _ ⟨⟩) rfl rfl (by simp) (by simp)⟩
  | compiled table views inputs tagged world fresh drafted picks tag =>
      exact ⟨_, rfl, candid.compiles mine fresh tag⟩
  | refreshes session errands => exact candid.errands errands
  | notes refreshes => exact ⟨[], candid.goes⟩
  | sends tagged world there allowed due => exact ⟨_, rfl, candid.sends mine there due⟩
  | withholds tagged world there allowed due =>
      refine ⟨_, rfl, candid.asks rfl (numbered there) rfl rfl (fun number => ?_)
        fun _ _ _ _ has sided => candid.spared_send mine there due has sided⟩
      simp [Incident.sends]
  | fetches tagged world there demanded => exact ⟨_, rfl, candid.fetches there (.inl demanded)⟩
  | misses tagged world there demanded => exact ⟨_, candid.goes_missed there (.inl demanded)⟩
  | reads tagged succeeded world there =>
      exact ⟨_, candid.goes_asked (numbered there) rfl rfl (by simp) (by simp)⟩

theorem Deeds.goes (deeds : Deeds binding before reached)
    (journaled : before.executor.subject.IsJournaled)
    (mine : posts[owner]? = some before.executor.post)
    (candid : Candid posts trail before.session) :
    ∃ more, Goes posts trail (some owner) before.session reached.session more := by
  induction deeds with
  | refl => exact ⟨[], candid.goes⟩
  | tail earlier does ih =>
      obtain ⟨more, goes⟩ := ih
      have role := Deeds.role earlier
      obtain ⟨later, next⟩ := does.goes (role.journaled journaled) (role.post ▸ mine)
        goes.upholds.candid
      exact ⟨more ++ later, goes.then next⟩

/-- An execution on a device that is not marked as stale. -/
theorem Executes.goes {inputs : List Value} {succeeded : Bool}
    (executes : Executes inputs before succeeded reached)
    (mine : posts[owner]? = some before.executor.post)
    (candid : Candid posts trail before.session)
    (settled : (before.session.device before.executor.device).deviceStale = false) :
    ∃ more, Goes posts trail (some owner) before.session reached.session more := by
  have quiet {tagged : Tagged P.Executable} {world : P.World} {succeeded : Bool}
      (there : executable? before = some tagged)
      (silent : succeeded = true → before.executor.training = false) :
      Goes posts trail (some owner) before.session (before.session.asked
        (.execute tagged.tag inputs (toPush before.executor)) succeeded world)
        [⟨.execute tagged.tag inputs (toPush before.executor), succeeded,
          before.session.world.demanding⟩] := by
    refine candid.goes_asked (fun tag same => ?_) rfl ?_ (by simp) (by simp)
    · obtain rfl := Option.some.inj same
      exact candid.numbered _ tagged there
    · have role : tagged.tag.training = before.executor.training :=
        candid.role owner _ tagged mine there
      cases succeeded with
      | false => simp [Entry.trained]
      | true => simp [Entry.trained, role, silent rfl]
  cases executes with
  | succeeds tagged world there =>
      unfold executedSession
      dsimp only
      split
      · next trains => exact ⟨_, rfl, candid.trains mine there trains settled⟩
      · next watches => exact ⟨_, quiet there fun _ => by simpa using watches⟩
  | fails tagged world there => exact ⟨_, quiet there (by simp)⟩

theorem Called.goes {arguments : CallArguments} {outcome : Result Output}
    (called : Called arguments before outcome reached)
    (journaled : before.executor.subject.IsJournaled)
    (mine : posts[owner]? = some before.executor.post)
    (candid : Candid posts trail before.session) :
    ∃ more, Goes posts trail (some owner) before.session reached.session more := by
  have executing {binding : Binding} {ready : Running P.journaled} {succeeded : Bool}
      (deeds : Deeds binding before ready)
      (executes : Executes binding.leaves ready succeeded reached)
      (settled : (ready.session.device ready.executor.device).deviceStale = false) :
      ∃ more, Goes posts trail (some owner) before.session reached.session more := by
    obtain ⟨more, goes⟩ := deeds.goes journaled mine candid
    obtain ⟨later, next⟩ := executes.goes (deeds.role.post ▸ mine) goes.upholds.candid settled
    exact ⟨more ++ later, goes.then next⟩
  cases called with
  | failed _ _ _ deeds => exact deeds.goes journaled mine candid
  | refused _ _ _ _ deeds _ executes _ settled => exact executing deeds executes settled
  | stopped _ _ deeds => exact deeds.goes journaled mine candid
  | executed _ _ _ _ deeds _ executes settled => exact executing deeds executes settled

/-- Every task but the report of a modification goes on so. -/
theorem Worked.goes {task : Task} {outcome : Result (Option Output)}
    (worked : Worked before task outcome reached) (other : task ≠ .markHostModified)
    (journaled : before.executor.subject.IsJournaled)
    (mine : posts[owner]? = some before.executor.post)
    (candid : Candid posts trail before.session) :
    ∃ more, Goes posts trail (some owner) before.session reached.session more := by
  cases worked with
  | called arguments outcome _ called => exact called.goes journaled mine candid
  | accepted optimizer descriptor described => exact ⟨[], candid.goes⟩
  | rejected optimizer cause => exact ⟨[], candid.goes⟩
  | marked => exact absurd rfl other
  | plain _ _ binding _ kind deeds => exact deeds.goes journaled mine candid
  | copied _ _ binding ready kind deeds =>
      have start : Goes posts trail (some owner) before.session (before.demand true).session [] :=
        candid.goes_same rfl rfl
      obtain ⟨more, goes⟩ := deeds.goes journaled mine start.upholds.candid
      have ended : Goes posts _ (some owner) ready.session (ready.demand false).session [] :=
        goes.upholds.candid.goes_same rfl rfl
      exact ⟨_, start.then (goes.then ended)⟩

end Executor

end Offload
