/-
# Weights are copied only when needed

The converse of freshness, about every run of a fleet in which nobody fetches weights by hand.
Weights are fetched from the trainer only if a training step succeeded since the last fetch, and
sent to a watcher only if the host fetched some since the watcher was compiled or last received any.
This holds of every copy that is asked for, also of those that then fail; so there are no more
fetches than training steps, and for no watcher more sends than fetches.
-/

import Offload.Proofs.Weights.Freshness
import Offload.Proofs.Weights.Thrift

namespace Offload

open Attempt Session Executor

namespace Fleet

variable {P : Platform} {fleet : Fleet P}

/-- Every copy in the session of a fleet was needed. -/
def Saves (fleet : Fleet P) : Prop := Thrifty fleet.lead? fleet.session

theorem saves_start (world : P.World) (model : P.Model) : (start world model).Saves where
  needed := eachAfter_nil _
  stale _ ahead := nomatch ahead

section Step

variable {α : Type}

theorem Saves.onSession (saves : fleet.Saves) (sound : Sound fleet)
    {step : Attempt (Session P.journaled) α} (abides : step.Abides (errandsVerdict false False)) :
    (fleet.onSession step).Saves :=
  Thrifty.errands saves sound.balanced.leadTrains (abides.reached fleet.session)

theorem Saves.withTrainer (saves : fleet.Saves) {step : Attempt (Running P.journaled) α}
    (carries : ∀ executor, fleet.trainer = some executor →
      step.Ends ⟨executor, fleet.session⟩
        (fun _ reached => reached.executor.device = executor.device ∧
          Thrifty fleet.lead? reached.session)
        fun _ reached => reached.executor.device = executor.device ∧
          Thrifty fleet.lead? reached.session) :
    (fleet.withTrainer step).Saves := by
  unfold Fleet.withTrainer
  split
  · exact saves
  · next executor there =>
      obtain ⟨device, thrifty⟩ := (carries executor there).reached
      have lead : fleet.lead? = some executor.device := by rw [lead?, there, Option.map_some]
      unfold Saves
      dsimp only [lead?]
      rw [Option.map_some, device, ← lead]
      exact thrifty

theorem Saves.withWatcher (saves : fleet.Saves) {index : Nat}
    {step : Attempt (Running P.journaled) α}
    (keeps : ∀ executor, fleet.watchers[index]? = some executor →
      step.Ends ⟨executor, fleet.session⟩ (fun _ reached => Thrifty fleet.lead? reached.session)
        fun _ reached => Thrifty fleet.lead? reached.session) :
    (fleet.withWatcher index step).Saves := by
  unfold Fleet.withWatcher
  split
  · exact saves
  · next executor there => exact (keeps executor there).reached

/-- A new device is not marked. -/
theorem Saves.housing {lead : Option DeviceId} {session : Session P.journaled}
    (thrifty : Thrifty lead session) : Thrifty lead (Session.housing session) := by
  refine thrifty.of_same rfl fun id ahead => ?_
  rw [housing_device] at ahead
  split at ahead
  · exact nomatch ahead
  · exact ahead

theorem Saves.addWatcher (saves : fleet.Saves) (options : Options) :
    (fleet.addWatcher options).Saves := by
  have ends := ends_inferenceModel fleet.handle options fleet.session
  unfold Ends at ends
  unfold Fleet.addWatcher
  split at ends <;> rename_i performed <;> rw [performed]
  · obtain ⟨rfl, options, rfl⟩ := ends
    exact Saves.housing saves
  · obtain rfl := ends
    exact saves

/-- A model that nobody trained gets a trainer that has trained nothing. -/
theorem Saves.addTrainer (saves : fleet.Saves) (none : fleet.trainer = none) (options : Options)
    (loss : Option (Loss P)) (optimizer : Option HostOptimizer) :
    (fleet.addTrainer options loss optimizer).Saves := by
  have ends := ends_trainingModel fleet.handle options (loss.map Loss.journaled) optimizer
    fleet.session
  have lead : fleet.lead? = .none := by rw [lead?, none, Option.map_none]
  have unmarked (id : DeviceId) : (fleet.session.device id).hostStale ≠ true := fun ahead => by
    have chosen := (saves.stale id ahead).1
    rw [lead] at chosen
    cases chosen
  unfold Ends at ends
  unfold Fleet.addTrainer
  split at ends <;> rename_i performed <;> rw [performed]
  · obtain ⟨-, rfl⟩ := ends
    refine ⟨saves.needed, fun id ahead => ?_⟩
    change ((Session.housing fleet.session).device id).hostStale = true at ahead
    rw [housing_device] at ahead
    split at ahead
    · cases ahead
    · exact absurd ahead (unmarked id)
  · obtain rfl := ends
    exact saves

/-- Every move but a fetch by hand copies only what is needed. -/
theorem Saves.step (saves : fleet.Saves) (sound : Sound fleet) {move : Move P}
    (silent : move.demands = false) : (fleet.step move).Saves := by
  have thrifty : Thrifty fleet.lead? fleet.session := saves
  cases move with
  | train options loss optimizer =>
      rw [Fleet.step]
      split
      · exact saves
      · next none => exact saves.addTrainer (by simpa using none) options loss optimizer
  | watch options => exact saves.addWatcher options
  | callTrainer arguments =>
      refine saves.withTrainer fun executor there => ?_
      have attached := (sound.trainer executor there).attached
      exact ((ends_call _ sound.balanced attached arguments).and
        (ends_call_thrifty sound.balanced attached thrifty arguments)).mono
          (fun _ _ ended => ⟨ended.1.1.device, ended.2⟩) fun _ _ ended => ⟨ended.1.device, ended.2⟩
  | compileTrainer arguments =>
      refine saves.withTrainer fun executor there => ?_
      have attached := (sound.trainer executor there).attached
      exact ((ends_compile _ sound.balanced attached arguments).and
        (ends_compile_thrifty arguments attached.serves.journaled thrifty
          sound.balanced.leadTrains)).mono
          (fun _ _ ended => ⟨ended.1.device, ended.2⟩) fun _ _ ended => ⟨ended.1.device, ended.2⟩
  | callWatcher index arguments =>
      refine saves.withWatcher fun executor there => ?_
      exact ends_call_thrifty sound.balanced (sound.watcher index executor there).1.attached thrifty
        arguments
  | compileWatcher index arguments =>
      refine saves.withWatcher fun executor there => ?_
      have attached := (sound.watcher index executor there).1.attached
      exact ends_compile_thrifty arguments attached.serves.journaled thrifty
        sound.balanced.leadTrains
  | parameters => exact saves.onSession sound (abides_parameters False.elim fleet.handle)
  | forward inputs => exact saves.onSession sound (abides_forward False.elim fleet.handle inputs)
  | sync => exact saves.onSession sound (abides_resolve False.elim fleet.handle)
  | fetch => cases silent
  | elapse world => exact Thrifty.of_same saves rfl fun _ => id

/-- Every run without fetches by hand copies only what is needed. -/
theorem Saves.run (saves : fleet.Saves) (sound : Sound fleet) {moves : List (Move P)}
    (undemanding : ∀ move ∈ moves, move.demands = false) : (fleet.run moves).Saves := by
  induction moves generalizing fleet with
  | nil => exact saves
  | cons move later ih =>
      exact ih (saves.step sound (undemanding move (.head _))) (sound.step move) fun other there =>
        undemanding other (.tail _ there)

end Step

/-- Weights are copied only when needed. Whatever was done with a model, its trainer and its
watchers, in any order and with any failures, short of fetches by hand: a fetch is asked for only of
a trainer and only if a training step succeeded since the last fetch did, and a send only to a
watcher and only if a fetch succeeded since the watcher was compiled or last received weights. Hence
there are no more successful fetches than training steps, and to no watcher more successful sends
than fetches. -/
theorem weights_copied_only_when_needed (world : P.World) (model : P.Model)
    (moves : List (Move P)) (undemanding : ∀ move ∈ moves, move.demands = false) :
    let entries := ((start world model).run moves).entries
    EachAfter Entry.Needed entries ∧
      entries.countP Entry.fetched ≤ entries.countP Entry.trained ∧
      ∀ tag, entries.countP (Entry.sent tag) ≤ entries.countP Entry.fetched := by
  intro entries
  have saves := (saves_start world model).run (sound_start world model) undemanding
  have needed : EachAfter Entry.Needed entries := saves.needed
  refine ⟨needed, countP_le_of_since (fun _ => Entry.fetched_of_trained) ?_, fun tag =>
    countP_le_of_since (fun _ => Entry.sent_of_fetched) ?_⟩
  · intro prior entry there fetched
    have need := needed prior entry there
    obtain ⟨operation, succeeded, demanded⟩ := entry
    cases operation with
    | copyToHost tag => exact need.2
    | _ => cases fetched
  · intro prior entry there sent
    have need := needed prior entry there
    obtain ⟨operation, succeeded, demanded⟩ := entry
    cases operation with
    | copyToDevice other =>
        obtain ⟨rfl, -⟩ : other = tag ∧ succeeded = true := by simpa [Entry.sent] using sent
        exact need.2.mono fun _ => Entry.supplied_of_sent
    | _ => cases sent

/-- There are two training steps between calls of a watcher, the first attempt to fetch what they
made fails, and the watcher is called twice after that. -/
def fetchedAtSecondAttempt : List (Move (Rehearsal.platform true)) :=
  [.train .initial none none, .watch .initial, .callWatcher 0 ⟨[], []⟩,
    .callTrainer ⟨[.absent], []⟩, .callTrainer ⟨[.absent], []⟩,
    .elapse (Rehearsal.World.initial.setFailing "to_host" true), .parameters,
    .elapse Rehearsal.World.initial, .callWatcher 0 ⟨[], []⟩, .callWatcher 0 ⟨[], []⟩]

/-- Of two training steps the weights are fetched once and sent once, and there was reason for every
attempt. -/
theorem steps_fetched_and_sent_once :
    let entries := (rehearsed.run fetchedAtSecondAttempt).entries
    (EachAfter Entry.Needed entries ∧ entries.countP Entry.fetched ≤ entries.countP Entry.trained ∧
      entries.countP (Entry.sent ⟨0, false⟩) ≤ entries.countP Entry.fetched) ∧
      entries.countP Entry.trained = 2 ∧ entries.countP Entry.fetched = 1 ∧
        entries.countP (Entry.sent ⟨0, false⟩) = 1 := by
  intro entries
  obtain ⟨needed, fetches, sends⟩ := weights_copied_only_when_needed Rehearsal.World.initial
    (⟨.empty, [], true⟩ : Rehearsal.Model) fetchedAtSecondAttempt (by decide)
  refine ⟨⟨needed, fetches, sends ⟨0, false⟩⟩, ?_⟩
  decide +kernel

end Fleet

end Offload
