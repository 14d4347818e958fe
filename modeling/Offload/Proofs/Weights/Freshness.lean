/-
# Which weights inference sees

Two statements about every run of a fleet. As long as nobody fetches weights by hand, every
execution of a watcher is asked for while its device has the newest weights, those of the trainer,
and so has the host. A fetch by hand is not counted as a refresh, so a watcher sends the weights
of the host to its device exactly if the trainer was ahead of the host or an uncounted number of
refreshes came in since; weights that came to the host by hand alone are not sent.
-/

import Offload.Proofs.Weights.Fleet
import Offload.Rehearsal.Platform

namespace Offload

open Attempt Session

namespace Fleet

variable {P : Platform}

/-- A run without fetches by hand demands nothing. -/
theorem Sound.undemanded {fleet : Fleet P} (sound : Sound fleet) {moves : List (Move P)}
    (undemanding : ∀ move ∈ moves, move.demands = false)
    (undemanded : ∀ entry ∈ fleet.entries, entry.demanded = false) :
    ∀ entry ∈ (fleet.run moves).entries, entry.demanded = false := by
  induction moves generalizing fleet with
  | nil => exact undemanded
  | cons move later ih =>
      have reaches := sound.reaches (undemanding move (by simp))
      apply ih reaches.sound (fun other there => undemanding other (by simp [there]))
      obtain ⟨more, grown, all⟩ := reaches.journal.entries
      intro entry there
      rw [entries, grown, List.mem_append] at there
      exact there.elim (undemanded entry) fun new =>
        (all entry new).1.trans sound.balanced.undemanded

/-- Inference never runs on stale weights. Whatever was done with a model and its wrappers, in any
order and with any failures, short of copies by hand: when an execution of a watcher was asked
for, its device had the weights of the trainer, and so had the host. -/
theorem inference_on_newest_weights (world : P.World) (model : P.Model) (moves : List (Move P))
    (undemanding : ∀ move ∈ moves, move.demands = false) (position number : Nat)
    (infers : (((start world model).run moves).entries[position]?.bind Entry.inference?) =
      some number) :
    let ledger := Ledger.ofEntries (((start world model).run moves).entries.take position)
    ledger.device number = ledger.trainer ∧ ledger.host = ledger.trainer := by
  have sound := (sound_start world model).run moves
  have undemanded := (sound_start world model).undemanded undemanding nofun
  obtain ⟨seen, newest⟩ := sound.balanced.upToDate position number infers
  have counted : (Ledger.ofEntries
      (((start world model).run moves).entries.take position)).Counted :=
    Ledger.counted_ofEntries fun entry there => undemanded entry (List.mem_of_mem_take there)
  exact ⟨(counted number seen).trans newest, newest⟩

/-- A rehearsed model without parameters that gives back its inputs, just shared. -/
def rehearsed : Fleet (Rehearsal.platform true) :=
  start Rehearsal.World.initial (⟨.empty, [], true⟩ : Rehearsal.Model)

/-- A trainer and a watcher are compiled, and there is a training step between two calls of the
watcher. -/
def trainingBetweenCalls : List (Move (Rehearsal.platform true)) :=
  [.train .initial none none, .watch .initial, .callWatcher 0 ⟨[], []⟩,
    .callTrainer ⟨[.absent], []⟩, .callWatcher 0 ⟨[], []⟩]

/-- The second call computes with the weights of the training step. -/
theorem inference_on_trained_weights :
    ((rehearsed.run trainingBetweenCalls).entries[14]?.bind Entry.inference?) = some 0 ∧
      (Ledger.ofEntries ((rehearsed.run trainingBetweenCalls).entries.take 14)).trainer = 1 ∧
      (Ledger.ofEntries ((rehearsed.run trainingBetweenCalls).entries.take 14)).device 0 =
        (Ledger.ofEntries ((rehearsed.run trainingBetweenCalls).entries.take 14)).trainer := by
  have infers :
      ((rehearsed.run trainingBetweenCalls).entries[14]?.bind Entry.inference?) = some 0 := by
    decide +kernel
  have trained :
      (Ledger.ofEntries ((rehearsed.run trainingBetweenCalls).entries.take 14)).trainer = 1 := by
    decide +kernel
  refine ⟨infers, trained, ?_⟩
  unfold rehearsed at infers ⊢
  exact (inference_on_newest_weights _ _ trainingBetweenCalls (by decide) 14 0 infers).1

section Send

variable {fleet : Fleet P} {watcher : Executor P.journaled} {tagged : Tagged P.Executable}
  {arguments : CallArguments} {output : Output} {reached : Running P.journaled}

/-- What a refresh asks of the platform. -/
theorem Refreshed.entries {before after : Session P.journaled}
    (refreshed : Refreshed before after) :
    ∃ fetched, after.world.entries = before.world.entries ++ fetched ∧
      ∀ entry ∈ fetched,
        ∃ tag : Tag, tag.training = true ∧ entry = ⟨.copyToHost tag, true, false⟩ := by
  unfold Refreshed at refreshed
  split at refreshed
  · obtain ⟨tag, trains, grown⟩ := refreshed
    exact ⟨_, grown, by simpa using trains⟩
  · exact ⟨[], by rw [refreshed, List.append_nil], by simp⟩

/-- A device has missed a refresh after the host was refreshed exactly if one was needed then or
had come in before. -/
theorem Refreshed.missed_iff {before after : Session P.journaled}
    (refreshed : Refreshed before after)
    (ahead : before.ledger.host ≤ before.ledger.trainer) (number : Nat) :
    after.ledger.refreshesAt number ≠ after.ledger.refreshes ↔
      before.ledger.host < before.ledger.trainer ∨
        before.ledger.refreshesAt number < before.ledger.refreshes := by
  have bounded : before.ledger.refreshesAt number ≤ before.ledger.refreshes :=
    Ledger.bounded_ofEntries _ number
  rw [refreshed.ledger ahead]
  dsimp only
  split <;> omega

/-- When a watcher sends the weights of the host to its device. A call that executes asks for a
fetch if the trainer is ahead of the host, then for a send exactly if that was so or the device
missed a refresh, and last for the execution. Whether the device is due does not matter: weights
that came to the host by a fetch that was demanded are sent only along with a later refresh. -/
theorem call_sends_iff_refreshed (world : P.World) (model : P.Model) (moves : List (Move P))
    (index : Nat) (there : ((start world model).run moves).watchers[index]? = some watcher)
    (compiled : (((start world model).run moves).session.device watcher.device).executable =
      some tagged)
    (called : (Executor.call arguments).perform ⟨watcher, ((start world model).run moves).session⟩ =
      (.ok output, reached))
    (executed : output.isExecuted = true) :
    let ledger := ((start world model).run moves).session.ledger
    ∃ fetched inputs optimizer,
      (∀ entry ∈ fetched, ∃ tag : Tag, tag.training = true ∧
        entry = ⟨.copyToHost tag, true, false⟩) ∧
      reached.session.world.entries = ((start world model).run moves).entries ++ fetched ++
        (if ledger.host < ledger.trainer ∨
            ledger.refreshesAt tagged.tag.number < ledger.refreshes then
          [⟨.copyToDevice tagged.tag, true, false⟩] else []) ++
        [⟨.execute tagged.tag inputs optimizer, true, false⟩] := by
  intro ledger
  have sound := (sound_start world model).run moves
  obtain ⟨enrolled, watches⟩ := sound.watcher index watcher there
  have ends := Executor.ends_call ⟨watcher, ((start world model).run moves).session⟩ sound.balanced
    enrolled.attached arguments
  unfold Ends at ends
  rw [called] at ends
  obtain ⟨middle, pushed, inputs, optimizer, refreshed, sends, entries⟩ :=
    ends.2 tagged compiled watches executed
  obtain ⟨fetched, grown, fetches⟩ := Refreshed.entries refreshed
  have missed := Refreshed.missed_iff refreshed sound.balanced.ahead tagged.tag.number
  refine ⟨fetched, inputs, optimizer, fetches, ?_⟩
  rw [entries, sends, grown, Fleet.entries]
  by_cases seen : middle.ledger.refreshesAt tagged.tag.number = middle.ledger.refreshes
  · rw [if_pos seen, if_neg (mt missed.mpr (not_not_intro seen))]
  · rw [if_neg seen, if_pos (missed.mp seen)]

/-- The trainer is called after a watcher, and something is done to fetch what it made. -/
def callsThen (last : Move (Rehearsal.platform true)) : List (Move (Rehearsal.platform true)) :=
  [.train .initial none none, .watch .initial, .callWatcher 0 ⟨[], []⟩,
    .callTrainer ⟨[.absent], []⟩, last]

/-- The first watcher is compiled and due, it missed a refresh, and a call of it executes. -/
def firstMissedRefresh (fleet : Fleet P) (arguments : CallArguments) : Bool :=
  fleet.watchers[0]?.any fun watcher =>
    (fleet.session.device watcher.device).executable.any fun tagged =>
      decide (fleet.session.ledger.Due tagged.tag.number ∧
        fleet.session.ledger.refreshesAt tagged.tag.number < fleet.session.ledger.refreshes) &&
      match (Executor.call arguments).perform ⟨watcher, fleet.session⟩ with
      | (.ok output, _) => output.isExecuted
      | (.error _, _) => false

theorem exists_of_firstMissedRefresh (fleet : Fleet P) (arguments : CallArguments)
    (missed : fleet.firstMissedRefresh arguments = true) :
    ∃ watcher tagged output reached, fleet.watchers[0]? = some watcher ∧
      (fleet.session.device watcher.device).executable = some tagged ∧
      fleet.session.ledger.Due tagged.tag.number ∧
      fleet.session.ledger.refreshesAt tagged.tag.number < fleet.session.ledger.refreshes ∧
      (Executor.call arguments).perform ⟨watcher, fleet.session⟩ = (.ok output, reached) ∧
      output.isExecuted = true := by
  obtain ⟨watcher, there, missed⟩ := (Option.any_eq_true _ _).mp missed
  obtain ⟨tagged, compiled, missed⟩ := (Option.any_eq_true _ _).mp missed
  rw [Bool.and_eq_true, decide_eq_true_eq] at missed
  obtain ⟨⟨due, behind⟩, executes⟩ := missed
  split at executes
  · exact ⟨watcher, tagged, _, _, there, compiled, due, behind, ‹_›, executes⟩
  · exact nomatch executes

/-- If a refresh fetched what the trainer made, the device is due, and the next call sends. -/
theorem refreshed_weights_are_sent :
    ∃ watcher tagged output reached,
      (rehearsed.run (callsThen .sync)).watchers[0]? = some watcher ∧
      ((rehearsed.run (callsThen .sync)).session.device watcher.device).executable = some tagged ∧
      (rehearsed.run (callsThen .sync)).session.ledger.Due tagged.tag.number ∧
      (Executor.call ⟨[], []⟩).perform ⟨watcher, (rehearsed.run (callsThen .sync)).session⟩ =
        (.ok output, reached) ∧
      output.isExecuted = true ∧
      ∃ fetched inputs optimizer, reached.session.world.entries =
        (rehearsed.run (callsThen .sync)).entries ++ fetched ++
          [⟨.copyToDevice tagged.tag, true, false⟩] ++
          [⟨.execute tagged.tag inputs optimizer, true, false⟩] := by
  obtain ⟨watcher, tagged, output, reached, there, compiled, due, behind, called, executed⟩ :=
    exists_of_firstMissedRefresh (rehearsed.run (callsThen .sync)) ⟨[], []⟩ (by decide +kernel)
  refine ⟨watcher, tagged, output, reached, there, compiled, due, called, executed, ?_⟩
  unfold rehearsed at there compiled behind called ⊢
  obtain ⟨fetched, inputs, optimizer, -, entries⟩ :=
    call_sends_iff_refreshed _ _ (callsThen .sync) 0 there compiled called executed
  rw [if_pos (.inr behind)] at entries
  exact ⟨fetched, inputs, optimizer, entries⟩

/-- If it was fetched by hand, the device is due just the same, but all that the next call asks for
is the execution. -/
theorem weights_fetched_by_hand_are_not_sent :
    let fleet := rehearsed.run (callsThen .fetch)
    ((fleet.watchers[0]?.bind fun watcher =>
        (fleet.session.device watcher.device).executable).map Tagged.tag = some ⟨0, false⟩) ∧
      fleet.session.ledger.Due 0 ∧
      ((fleet.step (.callWatcher 0 ⟨[], []⟩)).entries.drop fleet.entries.length).map
        Entry.inference? = [some 0] := by
  decide +kernel

end Send

end Fleet

end Offload
