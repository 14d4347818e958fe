/-
# A failed call can be retried

A call that failed is made again, while nothing that is asked of the platform fails. Then it succeeds,
and everything that calls can leave different is as after one successful call from where the failed one
began: what is compiled, the optimizers, the counts and marks of refreshes, and the warning. If there
is an execution, it has the same inputs and the same descriptor. Whatever point the first call failed
at, and whatever it left of the world besides the flag of a hook outside the library, does not matter.
-/

import Offload.Proofs.Rehearsal
import Offload.Proofs.Retry.Call

namespace Offload

/-- What was added to a journal. -/
def Journaled.added {World : Type} (before reached : Journaled World) : List Entry :=
  reached.entries.drop before.entries.length

/-- Nothing failed that was asked of the platform meanwhile. -/
def Journaled.Flawless {World : Type} (before reached : Journaled World) : Prop :=
  ∀ entry ∈ before.added reached, entry.succeeded = true

/-- The executions meanwhile. -/
def Journaled.executions {World : Type} (before reached : Journaled World) :
    List (List Value × Option Descriptor) :=
  (before.added reached).filterMap Entry.execution?

theorem Journaled.added_of_append {World : Type} {before reached : Journaled World}
    {more : List Entry} (grown : reached.entries = before.entries ++ more) :
    before.added reached = more := by
  rw [added, grown, List.drop_left]

theorem Subject.journaled_followed? {P : Platform} (subject : Subject P) :
    subject.journaled.followed? = subject.followed? := by
  cases subject <;> rfl

namespace Executor

open Attempt Session

variable {P : Platform}

/-- An executor at work, with another world. -/
def facing (world : Journaled P.World) (running : Running P.journaled) : Running P.journaled :=
  { running with session := { running.session with world := world } }

/-- An executor that follows a model, and does not bring its device up to date with it, always asks
for the model to capture it, or never does. -/
def CapturesOneWay (executor : Executor P) : Prop :=
  executor.subject.followed? ≠ none →
    (executor.training = true ∨ executor.options.connectionType? = some .never) →
      ∀ views, (frontend P executor.options.traceModel views).Asks ∨
        (frontend P executor.options.traceModel views).Silent

variable {flag : P.World → Bool} {asks densified : Bool} {binding : Binding}
  {running reached : Running P.journaled}

theorem role_waits {executor : Executor P.journaled} :
    (role asks executor).settles = false ↔
      executor.training = true ∨ executor.options.connectionType? = some .never := by
  rw [Role.settles, role, Bool.and_eq_false_iff, decide_eq_false_iff_not, Decidable.not_not,
    Bool.not_eq_false', or_comm]

/-- The views of a binding are captured one way. -/
theorem CapturesOneWay.captures {executor : Executor P} (oneWay : CapturesOneWay executor)
    (binding : Binding) : ∃ asks, Captures asks executor.journaled binding := by
  unfold Captures
  rw [Executor.journaled, Subject.journaled_followed?]
  by_cases pulls : executor.subject.followed? ≠ none ∧
    (executor.training = true ∨ executor.options.connectionType? = some .never)
  · obtain ⟨follows, waits⟩ := pulls
    cases made : Views.of executor.options binding with
    | error cause => exact ⟨true, fun _ _ _ same => nomatch same⟩
    | ok views =>
        rcases oneWay follows waits views with asks | silent
        · refine ⟨true, fun _ _ others same => ?_⟩
          obtain rfl := Except.ok.inj same
          exact asks
        · refine ⟨false, fun _ _ others same => ?_⟩
          obtain rfl := Except.ok.inj same
          exact silent
  · exact ⟨true, fun follows waits => absurd ⟨follows, role_waits.mp waits⟩ pulls⟩

theorem standing_facing {world : Journaled P.World}
    (flags : flag world.world = flag running.session.world.world) :
    standing flag (facing world running) = standing flag running := by
  have site : (facing world running).session.site flag running.executor.subject.followed? =
      running.session.site flag running.executor.subject.followed? :=
    site_eq rfl rfl (fun _ => rfl) fun _ _ => flags
  exact congrArg (fun site => { standing flag running with site := site }) site

/-- Another world with the same flag keeps nothing from going on. -/
theorem underway_facing {world : Journaled P.World}
    (flags : flag world.world = flag running.session.world.world) :
    Underway flag asks densified running (facing world running) :=
  ⟨rfl, .same _, fun _ => .refl _, standing_facing flags ▸ .refl⟩

theorem able_facing {world : Journaled P.World}
    (flags : flag world.world = flag running.session.world.world)
    (able : Able flag asks binding (facing world running)) : Able flag asks binding running := by
  obtain ⟨backed, drafted⟩ := able
  rw [standing_facing flags] at backed drafted
  exact ⟨backed, drafted⟩

/-- The arguments of a call that succeeded suit the signature. -/
theorem bound_of_call {args : CallArguments} {output : Output}
    (succeeded : (call (P := P.journaled) args).perform running = (.ok output, reached)) :
    ∃ densified binding,
      Binding.ofCall (running.executor.subject.signature running.session) args =
        .ok (densified, binding) := by
  have ends : (call (P := P.journaled) args).Ends running
      (fun _ _ => ∃ densified binding,
        Binding.ofCall (running.executor.subject.signature running.session) args =
          .ok (densified, binding)) fun _ _ => True := by
    rw [call, ends_bind]
    refine (ends_bind_arguments args running).mono ?_ fun _ _ _ => trivial
    rintro binding told ⟨densified, bound, -⟩
    exact (ends_somehow _ told).mono (fun _ _ _ => ⟨densified, binding, bound⟩) fun _ _ => id
  exact ends.ok succeeded

/-- The executions of a call that arrived. -/
theorem Arrives.executions_eq (arrives : Arrives flag asks densified binding running reached) :
    running.session.world.executions reached.session.world =
      if (role asks running.executor).connects then [(binding.leaves, toPush running.executor)]
      else [] := by
  obtain ⟨more, grown, executions⟩ := arrives.executions
  rw [Journaled.executions, Journaled.added_of_append grown, executions]

/-- Where nothing failed, only somebody who holds a model is to blame. -/
theorem holding_of_blamed {before reached : Session P.journaled} {cause : Error}
    (blamed : Blamed before cause reached) (flawless : before.world.Flawless reached.world) :
    cause.Holding := by
  refine blamed.resolve_right ?_
  rintro ⟨more, grown, entry, there, failed⟩
  have succeeded := flawless entry (Journaled.added_of_append grown ▸ there)
  exact nomatch failed.symm.trans succeeded

/-- A call that failed can be retried: made again while nothing fails, it succeeds and leaves what one
successful call from the start would have left, and it executes on the same inputs with the same
descriptor. -/
theorem failed_call_retried (executor : Executor P) (session : Session P.journaled)
    (args : CallArguments) (flag : P.World → Bool) (signatures : P.KeepsSignatures)
    (signalled : session.Signalled flag executor.subject.followed?)
    (oneWay : CapturesOneWay executor)
    -- a call fails
    {cause : Error} {broken : Running P.journaled}
    (failed : (call args).perform ⟨executor.journaled, session⟩ = (.error cause, broken))
    -- from the same state a call would succeed
    {fine : Journaled P.World} {output : Output} {done : Running P.journaled}
    (fine_flag : flag fine.world = flag session.world.world)
    (once : (call args).perform (facing fine ⟨executor.journaled, session⟩) = (.ok output, done))
    -- the call is made again, nothing fails, and nobody who holds the model is in its way
    {mended : Journaled P.World} {outcome : Result Output} {reached : Running P.journaled}
    (mended_flag : flag mended.world = flag broken.session.world.world)
    (again : (call args).perform (facing mended broken) = (outcome, reached))
    (flawless : mended.Flawless reached.session.world)
    (unheld : ∀ cause, outcome = .error cause → ¬cause.Holding) :
    (∃ output, outcome = .ok output) ∧ standing flag reached = standing flag done ∧
      mended.executions reached.session.world = fine.executions done.session.world := by
  let before : Running P.journaled := ⟨executor.journaled, session⟩
  have ready : Ready flag before :=
    { journaled := ⟨executor.subject, rfl⟩
      signalled := by
        rw [show before.executor.subject.followed? = _ from
          Subject.journaled_followed? executor.subject]
        exact signalled }
  obtain ⟨densified, binding, bound⟩ := bound_of_call once
  obtain ⟨asks, captures⟩ := oneWay.captures binding
  have elsewhere : Underway flag asks densified before (facing fine before) :=
    underway_facing fine_flag
  have arrives : Arrives flag asks densified binding (facing fine before) done :=
    (ends_call_onward signatures (elsewhere.ready ready) (elsewhere.captures captures) args
      bound).ok once
  have able : Able flag asks binding before := able_facing fine_flag arrives.able
  have falls : Falls flag asks densified binding before cause broken :=
    (ends_call_onward signatures ready captures args bound).error failed
  have resumed : Underway flag asks densified before (facing mended broken) :=
    falls.1.trans (underway_facing mended_flag)
  have ends := ends_call_onward signatures (resumed.ready ready) (resumed.captures captures) args
    (resumed.signature ▸ bound)
  cases outcome with
  | error cause =>
      have blamed := (ends.error again).2 (resumed.able able)
      exact absurd (holding_of_blamed blamed flawless) (unheld cause rfl)
  | ok output =>
      have returns := ends.ok again
      refine ⟨⟨output, rfl⟩, ?_, ?_⟩
      · rw [returns.standing, arrives.standing, resumed.role, resumed.advances.destination,
          standing_facing fine_flag, elsewhere.role]
      · have executions := returns.executions_eq
        rw [resumed.role, resumed.toPush] at executions
        exact executions.trans arrives.executions_eq.symm

section Interrupted

/-- A watching wrapper with a requested optimizer that was not called yet. It follows a model of which
newer weights are on another device. -/
def watcher : Executor (Rehearsal.platform true) where
  subject := .shared ⟨0⟩
  options := Options.initial.put "anchor_mode" (.int AnchorMode.all.code)
  training := false
  device := ⟨1⟩
  optimizer := none
  requested := (Descriptor.ofHost (.sgd HostOptimizer.defaultLearningRate)).toOption
  refreshesSeen := 0
  warned := false

/-- The session of the watching wrapper, in which no execution succeeds. -/
def stalled : Session (Rehearsal.platform true).journaled where
  world := .start (Rehearsal.World.initial.setFailing "execute" true)
  notices := []
  models := ⟨1, [(0, ⟨⟨.empty, [], true⟩, 0, false, some (.device ⟨0⟩), 0⟩)]⟩
  devices := ⟨2, [(0, ⟨some ⟨⟨0, true⟩, ⟨0, true⟩⟩, true, false⟩), (1, default)]⟩

/-- A rehearsal in which nothing fails. -/
def smooth : Journaled Rehearsal.World := .start .initial

/-- The wrapper is called while no execution succeeds. -/
def interrupted : Result Output × Running (Rehearsal.platform true).journaled :=
  (call ⟨[], []⟩).perform ⟨watcher.journaled, stalled⟩

/-- The wrapper is called again, and everything succeeds. -/
def resumed : Result Output × Running (Rehearsal.platform true).journaled :=
  (call ⟨[], []⟩).perform (facing smooth interrupted.2)

/-- The wrapper is called once, and everything succeeds. -/
def undisturbed : Result Output × Running (Rehearsal.platform true).journaled :=
  (call ⟨[], []⟩).perform (facing smooth ⟨watcher.journaled, stalled⟩)

theorem eq_of_fails {α σ : Type} {ended : Result α × σ} (fails : Journaled.succeeds ended.1 = false) :
    ∃ cause, ended = (.error cause, ended.2) := by
  obtain ⟨cause | value, reached⟩ := ended
  · exact ⟨cause, rfl⟩
  · exact nomatch fails

theorem eq_of_succeeds {α σ : Type} {ended : Result α × σ}
    (succeeds : Journaled.succeeds ended.1 = true) : ∃ value, ended = (.ok value, ended.2) := by
  obtain ⟨cause | value, reached⟩ := ended
  · exact nomatch succeeds
  · exact ⟨value, rfl⟩

/-- The first call fetches the newer weights and compiles before it fails; the second one only
executes. -/
theorem interrupted_call_retried :
    Journaled.succeeds interrupted.1 = false ∧ Journaled.succeeds resumed.1 = true ∧
      standing (fun _ => false) resumed.2 = standing (fun _ => false) undisturbed.2 ∧
      smooth.executions resumed.2.session.world = smooth.executions undisturbed.2.session.world ∧
      (smooth.added resumed.2.session.world).length = 1 ∧
      (smooth.added undisturbed.2.session.world).length = 7 := by
  have fails : Journaled.succeeds interrupted.1 = false := by decide +kernel
  have succeeds : Journaled.succeeds undisturbed.1 = true := by decide +kernel
  have returns : Journaled.succeeds resumed.1 = true := by decide +kernel
  have flawless : smooth.Flawless resumed.2.session.world := by
    have all : (smooth.added resumed.2.session.world).all Entry.succeeded = true := by
      decide +kernel
    exact fun entry there => List.all_eq_true.mp all entry there
  obtain ⟨cause, failed⟩ := eq_of_fails fails
  obtain ⟨output, once⟩ := eq_of_succeeds succeeds
  obtain ⟨value, again⟩ := eq_of_succeeds returns
  have signalled : stalled.Signalled (fun _ => false) watcher.subject.followed? := nofun
  have connects : watcher.options.connectionType? ≠ some .never := by decide +kernel
  have oneWay : watcher.CapturesOneWay := by
    rintro - (training | never)
    · exact nomatch training
    · exact absurd never connects
  have retried := failed_call_retried watcher stalled ⟨[], []⟩ (fun _ => false)
    (Rehearsal.keepsSignatures true) signalled oneWay failed rfl once rfl again flawless nofun
  exact ⟨fails, returns, retried.2.1, retried.2.2, by decide +kernel, by decide +kernel⟩

end Interrupted

end Executor

end Offload
