/-
# Copies that are needed

A session is thrifty if every copy of weights in its journal was needed when it was asked for,
whether it then succeeded or not. Weights are fetched from a trainer that made new ones since the
last fetch, and sent to a device that received none since the host did. What carries this is the
mark of stale host weights: it stands only on the device of the trainer, and only while a training
step has not been fetched. Whether a device has missed a fetch is read off the ledger.

Errands, compilations, sends and executions keep a session thrifty, and so do calls, for which the
balance has to hold on the way: a watching executor that sends weights has not counted a refresh.
-/

import Offload.Proofs.Executor.Record
import Offload.Proofs.Journal.Since
import Offload.Proofs.Weights.Call

namespace Offload

open Attempt Session

/-- A copy of weights was needed after some entries. -/
def Entry.Needed (prior : List Entry) (entry : Entry) : Prop :=
  match entry.operation with
  | .copyToHost tag => tag.training = true ∧ Since Entry.trained Entry.fetched prior
  | .copyToDevice tag => tag.training = false ∧ Since Entry.fetched (Entry.supplied tag) prior
  | _ => True

namespace Ledger

/-- A device that does not train and received weights does not miss a fetch. -/
private theorem missed_of_receive {ledger : Ledger} {tag other : Tag}
    (watches : tag.training = false)
    (missed : (ledger.receive other).refreshesAt tag.number < (ledger.receive other).refreshes) :
    ledger.refreshesAt tag.number < ledger.refreshes ∧ other ≠ tag := by
  unfold receive at missed
  split at missed
  · next trains =>
      refine ⟨missed, ?_⟩
      rintro rfl
      exact nomatch trains.symm.trans watches
  · by_cases same : tag.number = other.number
    · simp [same] at missed
    · dsimp only at missed
      rw [Function.update_of_ne same] at missed
      refine ⟨missed, ?_⟩
      rintro rfl
      exact same rfl

/-- A device that misses a refresh received nothing since the host did. -/
theorem since_of_missed {entries : List Entry} {tag : Tag} (watches : tag.training = false)
    (missed : (ofEntries entries).refreshesAt tag.number < (ofEntries entries).refreshes) :
    Since Entry.fetched (Entry.supplied tag) entries := by
  induction entries using List.reverseRecOn with
  | nil => exact absurd missed (Nat.lt_irrefl 0)
  | append_singleton entries entry ih =>
      obtain ⟨operation, succeeded, demanded⟩ := entry
      rw [ofEntries_append_singleton] at missed
      rw [since_append_singleton]
      cases succeeded with
      | false =>
          refine .inr ⟨ih missed, ?_⟩
          cases operation <;> simp [Entry.supplied, Entry.sent]
      | true =>
          cases operation with
          | compile other request =>
              obtain ⟨missed, apart⟩ := missed_of_receive watches missed
              exact .inr ⟨ih missed, by simp [Entry.supplied, apart]⟩
          | copyToDevice other =>
              obtain ⟨missed, apart⟩ := missed_of_receive watches missed
              exact .inr ⟨ih missed, by simp [Entry.supplied, Entry.sent, apart]⟩
          | copyToHost other => exact .inl rfl
          | execute other inputs optimizer =>
              refine .inr ⟨ih ?_, rfl⟩
              change (step _ other).refreshesAt tag.number < (step _ other).refreshes at missed
              unfold step at missed
              split at missed <;> exact missed
          | _ => exact .inr ⟨ih missed, rfl⟩

end Ledger

namespace Session

variable {P : Platform} {lead : Option DeviceId} {before reached : Session P.journaled}

/-- Every copy of weights was needed when it was asked for, and only a trainer of which a training
step was not fetched is marked as ahead of the host. -/
structure Thrifty (lead : Option DeviceId) (session : Session P.journaled) : Prop where
  needed : EachAfter Entry.Needed session.world.entries
  stale : ∀ id, (session.device id).hostStale = true →
    lead = some id ∧ Since Entry.trained Entry.fetched session.world.entries

/-- The executable of the trainer trains. -/
def LeadTrains (lead : Option DeviceId) (session : Session P.journaled) : Prop :=
  ∀ id tagged, lead = some id → (session.device id).executable = some tagged →
    tagged.tag.training = true

theorem Balanced.leadTrains {handle : Handle} (balanced : Balanced handle lead before) :
    LeadTrains lead before :=
  fun id tagged chosen there => (balanced.registered.role id tagged there).mpr chosen

/-- A session with the same journal and no more marks is thrifty as well. -/
theorem Thrifty.of_same (thrifty : Thrifty lead before)
    (entries : reached.world.entries = before.world.entries)
    (stale : ∀ id, (reached.device id).hostStale = true → (before.device id).hostStale = true) :
    Thrifty lead reached where
  needed := entries ▸ thrifty.needed
  stale id ahead := entries ▸ thrifty.stale id (stale id ahead)

/-- A needed entry that fetches nothing keeps a session thrifty, if only a training step marks the
trainer. -/
theorem Thrifty.grows (thrifty : Thrifty lead before) {entry : Entry}
    (grown : reached.world.entries = before.world.entries ++ [entry])
    (needed : entry.Needed before.world.entries) (unfetched : entry.fetched = false)
    (stale : ∀ id, (reached.device id).hostStale = true →
      (before.device id).hostStale = true ∨ lead = some id ∧ entry.trained = true) :
    Thrifty lead reached where
  needed := by
    rw [grown, eachAfter_append_singleton]
    exact ⟨thrifty.needed, needed⟩
  stale id ahead := by
    rw [grown, since_append_singleton]
    rcases stale id ahead with before | ⟨chosen, trained⟩
    · obtain ⟨chosen, since⟩ := thrifty.stale id before
      exact ⟨chosen, .inr ⟨since, unfetched⟩⟩
    · exact ⟨chosen, .inl trained⟩

section Errand

variable {capturing : Bool}

/-- An errand fetches weights only from a trainer that is marked, and clears its mark. -/
theorem Thrifty.errand (thrifty : Thrifty lead before) (leads : LeadTrains lead before)
    (errand : Errand capturing before reached) : Thrifty lead reached := by
  have fetching {id : DeviceId} {tagged : Tagged P.Executable}
      (stale : (before.device id).hostStale = true)
      (there : (before.device id).executable = some tagged) (succeeded : Bool) :
      (⟨.copyToHost tagged.tag, succeeded, before.world.demanding⟩ : Entry).Needed
        before.world.entries := by
    obtain ⟨chosen, since⟩ := thrifty.stale id stale
    exact ⟨leads id tagged chosen there, since⟩
  cases errand with
  | turns world notices models hooks => exact thrifty.of_same rfl fun _ => id
  | asks operation succeeded world errand =>
      have plain : ∀ demanded, (⟨operation, succeeded, demanded⟩ : Entry).Needed
          before.world.entries ∧ (⟨operation, succeeded, demanded⟩ : Entry).fetched = false := by
        intro demanded
        cases operation <;> first | exact ⟨trivial, rfl⟩ | exact nomatch errand
      exact thrifty.grows rfl (plain _).1 (plain _).2 fun _ => .inl
  | misses id tagged world stale there =>
      exact thrifty.grows rfl (fetching stale there false) rfl fun _ => .inl
  | fetches id tagged world stale there =>
      constructor
      · rw [did_entries, eachAfter_append_singleton]
        exact ⟨thrifty.needed, fetching stale there true⟩
      · intro other ahead
        rw [did_device] at ahead
        split at ahead
        · exact nomatch ahead
        · next apart =>
            have chosen := (thrifty.stale other ahead).1
            rw [(thrifty.stale id stale).1] at chosen
            exact absurd (Option.some.inj chosen).symm apart

theorem Thrifty.errands (thrifty : Thrifty lead before) (leads : LeadTrains lead before)
    (errands : Errands capturing before reached) : Thrifty lead reached := by
  induction errands with
  | refl => exact thrifty
  | tail earlier errand ih =>
      refine ih.errand (fun id tagged chosen there => leads id tagged chosen ?_) errand
      rw [← Errands.ran earlier |>.executable id, there]

end Errand

end Session

namespace Executor

variable {P : Platform} {handle : Handle} {lead : Option DeviceId} {running : Running P.journaled}
  {tagged : Tagged P.Executable}

theorem Serves.journaled {subject : Subject P.journaled} (serves : Serves handle subject) :
    subject.IsJournaled := by
  rcases serves with rfl | ⟨loss, rfl⟩
  · exact ⟨.shared handle, rfl⟩
  · exact ⟨.training handle loss, rfl⟩

/-- Telling the application something asks for no copy. -/
theorem Tells.thrifty {told : Running P.journaled} (tells : Tells running told)
    (thrifty : Thrifty lead running.session) : Thrifty lead told.session := by
  obtain ⟨notices, warned, rfl⟩ := tells
  exact thrifty.of_same rfl fun _ => id

/-- Compiling asks for errands and for the compilation. -/
theorem ends_compileBinding_thrifty (binding : Binding)
    (journaled : running.executor.subject.IsJournaled) (thrifty : Thrifty lead running.session)
    (leads : LeadTrains lead running.session) :
    (compileBinding (P := P.journaled) binding).Ends running
      (fun _ reached => Thrifty lead reached.session)
      fun _ reached => Thrifty lead reached.session := by
  have prepared {reached : Running P.journaled} (prepares : Prepares true running reached) :
      Thrifty lead reached.session := thrifty.errands leads (prepares.errands journaled)
  refine (ends_compileBinding_handed patient_preparing (.refl _) binding running
    (fun prepares => by rw [show _ = _ from prepares.executor])
    fun views _ => abides_frontend _ views).mono ?_ ?_
  · rintro _ _ ⟨table, views, before, tagged, handed, drafted, prepares, -, hands, rfl⟩
    obtain ⟨inputs, picked, world, tag, rfl⟩ := hands.submits
    refine (prepared prepares).grows rfl trivial rfl fun id ahead => .inl ?_
    simp only [install, device_update] at ahead
    split at ahead
    · next same => exact same ▸ ahead
    · exact ahead
  · rintro cause reached (⟨drafted, prepares⟩ | ⟨prepares, spares⟩ |
      ⟨table, views, before, drafted, prepares, hands⟩)
    · exact prepared prepares
    · exact prepared prepares
    · obtain ⟨inputs, picked, spares, tag, world, rfl⟩ := hands.submits
      exact (prepared prepares).grows rfl trivial rfl fun _ => .inl

theorem ends_ensureCompiled_thrifty (binding : Binding)
    (journaled : running.executor.subject.IsJournaled) (thrifty : Thrifty lead running.session)
    (leads : LeadTrains lead running.session) :
    (ensureCompiled (P := P.journaled) binding).Ends running
      (fun _ reached => Thrifty lead reached.session)
      fun _ reached => Thrifty lead reached.session := by
  rw [ensureCompiled, ends_bind, ends_get]
  split
  · exact thrifty
  · exact ends_compileBinding_thrifty binding journaled thrifty leads

theorem ends_compile_thrifty (arguments : CallArguments)
    (journaled : running.executor.subject.IsJournaled) (thrifty : Thrifty lead running.session)
    (leads : LeadTrains lead running.session) :
    (compile (P := P.journaled) arguments).Ends running
      (fun _ reached => Thrifty lead reached.session)
      fun _ reached => Thrifty lead reached.session := by
  rw [compile, ends_bind, ends_get]
  split
  · exact thrifty
  · rw [ends_bind]
    refine (ends_bind_arguments arguments running).mono ?_ ?_
    · rintro binding _ ⟨densified, -, rfl⟩
      have tells := tells_heeding densified running
      have told := tells.thrifty thrifty
      obtain ⟨notices, warned, same⟩ := tells
      rw [same] at told ⊢
      exact ends_compileBinding_thrifty binding journaled told leads
    · rintro cause _ ⟨-, rfl⟩
      exact thrifty

/-- Sending weights asks for one copy, which has to be needed. -/
theorem ends_copyToDevice_thrifty (there : executable? running = some tagged)
    (thrifty : Thrifty lead running.session) (watches : tagged.tag.training = false)
    (missed : Since Entry.fetched (Entry.supplied tagged.tag) running.session.world.entries) :
    (copyToDevice (P := P.journaled)).Ends running
      (fun _ reached => Thrifty lead reached.session)
      fun _ reached => Thrifty lead reached.session := by
  rw [copyToDevice, ends_bind, ends_get, ends_onSession]
  refine (ends_copying running.executor.device _ running.session).mono ?_ ?_
  · rintro _ _ ⟨found, world, found_there, -, rfl⟩
    obtain rfl := Option.some.inj (there.symm.trans found_there)
    refine thrifty.grows rfl ⟨watches, missed⟩ rfl fun id ahead => .inl ?_
    rw [did_device] at ahead
    split at ahead
    · next same => exact same ▸ ahead
    · exact ahead
  · rintro cause _ (⟨-, -, rfl⟩ | ⟨found, world, found_there, -, rfl⟩)
    · exact thrifty
    · obtain rfl := Option.some.inj (there.symm.trans found_there)
      exact thrifty.grows rfl ⟨watches, missed⟩ rfl fun _ => .inl

/-- A watching executor that has not counted the last refresh misses the weights of a fetch. -/
theorem Attached.missed (attached : Attached handle lead running.executor running.session)
    (balanced : Balanced handle lead running.session)
    (watches : running.executor.training = false) (there : executable? running = some tagged)
    (unseen : (running.session.cell handle).refreshes ≠ running.executor.refreshesSeen) :
    tagged.tag.training = false ∧
      Since Entry.fetched (Entry.supplied tagged.tag) running.session.world.entries := by
  have silent : tagged.tag.training = false := by
    rw [Bool.eq_false_iff, ne_eq, balanced.registered.role _ tagged there, ← attached.role,
      Bool.not_eq_true, watches]
  have bounded : (Ledger.ofEntries running.session.world.entries).refreshesAt tagged.tag.number ≤
      (Ledger.ofEntries running.session.world.entries).refreshes := Ledger.bounded_ofEntries _ _
  rw [balanced.refreshes, attached.seen watches tagged there] at unseen
  exact ⟨silent, Ledger.since_of_missed silent (Nat.lt_of_le_of_ne bounded unseen.symm)⟩

/-- Following the model asks for errands and, if a refresh was not counted, for a copy. -/
theorem ends_followModel_thrifty (balanced : Balanced handle lead running.session)
    (attached : Attached handle lead running.executor running.session)
    (watches : running.executor.training = false) (there : executable? running = some tagged)
    (thrifty : Thrifty lead running.session) :
    (followModel (P := P.journaled)).Ends running
      (fun _ reached => Thrifty lead reached.session)
      fun _ reached => Thrifty lead reached.session := by
  have follows : running.executor.subject.followed? = some handle := by
    rw [attached.follows watches]
    rfl
  have resolves : (resolve (P := P.journaled) handle).Abides (errandsVerdict false False) :=
    abides_resolve False.elim handle
  simp only [followModel, ends_bind, ends_get, follows, ends_onSession]
  refine (balanced.ends_resolve.and (resolves running.session)).mono ?_ ?_
  · rintro refreshed middle ⟨⟨balanced', spares, -⟩, errands⟩
    have thrifty' := thrifty.errands balanced.leadTrains errands
    split
    · next unseen =>
        have carried := carried_session attached balanced' spares
        have there' : executable? { running with session := middle } = some tagged :=
          (spares.executable _ id).trans there
        obtain ⟨silent, missed⟩ := carried.attached.missed balanced' watches there' unseen
        rw [ends_bind]
        refine ends_notify fun told tells => ?_
        have ready : executable? told = some tagged ∧
            Since Entry.fetched (Entry.supplied tagged.tag) told.session.world.entries := by
          obtain ⟨notices, warned, rfl⟩ := tells
          exact ⟨there', missed⟩
        rw [ends_bind]
        refine (ends_copyToDevice_thrifty ready.1 (tells.thrifty thrifty') silent ready.2).mono
          (fun _ sent kept => ?_) fun _ _ => id
        rw [noteRefreshes, ends_bind, ends_get]
        split <;> exact kept
    · exact thrifty'
  · rintro cause middle ⟨-, errands, -⟩
    exact thrifty.errands balanced.leadTrains errands

/-- An execution asks for no copy. If it trains, it marks the trainer. -/
theorem ends_execute_thrifty (balanced : Balanced handle lead running.session)
    (attached : Attached handle lead running.executor running.session)
    (there : executable? running = some tagged) (thrifty : Thrifty lead running.session)
    (inputs : List Value) :
    (execute (P := P.journaled) inputs).Ends running
      (fun _ reached => Thrifty lead reached.session)
      fun _ reached => Thrifty lead reached.session := by
  refine (ends_execute_executes inputs there).mono (fun _ reached executes => ?_)
    fun _ reached ended => ?_
  · cases executes with
    | succeeds found world found_there =>
        unfold executedSession
        dsimp only
        split
        · next trains =>
            have chosen := attached.role.mp trains
            have role := balanced.leadTrains _ found chosen found_there
            refine thrifty.grows rfl trivial rfl fun id ahead => ?_
            rw [did_device] at ahead
            split at ahead
            · next same => exact .inr ⟨same ▸ chosen, by simp [Entry.trained, role]⟩
            · exact .inl ahead
        · exact thrifty.grows rfl trivial rfl fun _ => .inl
  · obtain ⟨executes, -⟩ := ended
    cases executes with
    | fails found world found_there => exact thrifty.grows rfl trivial rfl fun _ => .inl

/-- A call of an attached executor in a balanced session keeps it thrifty. -/
theorem ends_call_thrifty (balanced : Balanced handle lead running.session)
    (attached : Attached handle lead running.executor running.session)
    (thrifty : Thrifty lead running.session) (arguments : CallArguments) :
    (call (P := P.journaled) arguments).Ends running
      (fun _ reached => Thrifty lead reached.session)
      fun _ reached => Thrifty lead reached.session := by
  rw [call, ends_bind]
  refine (ends_bind_arguments arguments running).mono ?_ ?_
  · rintro binding _ ⟨densified, -, rfl⟩
    have carried := (tells_heeding densified running).quiet.carries balanced attached
    have told := (tells_heeding densified running).thrifty thrifty
    generalize heeding densified running = heeded at carried told
    have compiles := (ends_ensureCompiled carried.balanced carried.attached binding).and
      (ends_ensureCompiled_thrifty binding carried.attached.serves.journaled told
        carried.balanced.leadTrains)
    rw [ends_bind]
    refine compiles.mono ?_ fun _ _ ended => ended.2
    rintro - ready ⟨⟨compiled, ⟨tagged, there⟩, -⟩, thrifty⟩
    have executes {state : Running P.journaled} {found : Tagged P.Executable}
        (carried : Carried handle lead ready state) (there : executable? state = some found)
        (thrifty : Thrifty lead state.session) :
        (do
          sendModified
          return .ofResults (← execute binding.leaves) : Attempt (Running P.journaled) Output).Ends
          state (fun _ reached => Thrifty lead reached.session)
          fun _ reached => Thrifty lead reached.session := by
      rw [ends_bind, ends_sendModified carried.balanced, ends_bind]
      exact ends_execute_thrifty carried.balanced carried.attached there thrifty _
    have stays := refl_of (Carries handle lead) ready compiled.balanced compiled.attached
    rw [ends_bind, ends_get]
    dsimp only
    split
    · rw [ends_bind]
      exact ends_notify fun stopped tells => tells.thrifty thrifty
    · split
      · next watches =>
          have watches : ready.executor.training = false := by simpa using watches
          have follows := (ends_followModel compiled.balanced compiled.attached watches there).and
            (ends_followModel_thrifty compiled.balanced compiled.attached watches there thrifty)
          rw [ends_bind]
          exact follows.mono (fun _ _ ended => executes ended.1.1 ended.1.2.1 ended.2)
            fun _ _ ended => ended.2
      · exact executes stays there thrifty
  · rintro cause _ ⟨-, rfl⟩
    exact thrifty

end Executor

end Offload
