/-
# The ledger of the weights

What a journal says about the weights of one model with one trainer. A training step makes new
weights on the device of the trainer; everything else moves weights: a fetch from the trainer to
the host, a compilation or a send from the host to a device. The ledger numbers the weights in
the order in which they were made and keeps, for the host and for every device, the number of
those that are there. It is computed from the journal alone and knows nothing of how wrappers
decide what to move.

Besides, it counts the fetches that nobody demanded, and remembers for each executable how far
that count was, and how far training was, when its device last received the weights of the host.
-/

import Offload.Proofs.Journal.Basic
import Mathlib.Logic.Function.Basic

namespace Offload

/-- Which weights are where, by number. -/
structure Ledger where
  /-- The weights on the host. -/
  host : Nat
  /-- The weights on the device of the trainer. -/
  trainer : Nat
  /-- The weights on the device of another executable, by its number. -/
  device : Nat → Nat
  /-- How many fetches nobody demanded. -/
  refreshes : Nat
  /-- `refreshes` when the device of an executable last received weights. -/
  refreshesAt : Nat → Nat
  /-- `trainer` when the device of an executable last received weights. -/
  trainerAt : Nat → Nat

namespace Ledger

/-- Weights that were trained since a device last received any have come to the host. -/
def Due (ledger : Ledger) (number : Nat) : Prop := ledger.trainerAt number < ledger.host

instance (ledger : Ledger) (number : Nat) : Decidable (ledger.Due number) :=
  inferInstanceAs (Decidable (_ < _))

/-- Before anything was asked. -/
def start : Ledger := ⟨0, 0, fun _ => 0, 0, fun _ => 0, fun _ => 0⟩

/-- The device of an executable receives the weights of the host. -/
def receive (ledger : Ledger) (tag : Tag) : Ledger :=
  if tag.training then { ledger with trainer := ledger.host }
  else
    { ledger with
      device := Function.update ledger.device tag.number ledger.host
      refreshesAt := Function.update ledger.refreshesAt tag.number ledger.refreshes
      trainerAt := Function.update ledger.trainerAt tag.number ledger.trainer }

/-- The host receives the weights of an executable. -/
def fetch (ledger : Ledger) (tag : Tag) (demanded : Bool) : Ledger :=
  { ledger with
    host := if tag.training then ledger.trainer else ledger.device tag.number
    refreshes := if demanded then ledger.refreshes else ledger.refreshes + 1 }

/-- An execution makes new weights if it trains. -/
def step (ledger : Ledger) (tag : Tag) : Ledger :=
  if tag.training then { ledger with trainer := ledger.trainer + 1 } else ledger

/-- What an entry does to the weights. What failed does nothing to them. -/
def after (ledger : Ledger) (entry : Entry) : Ledger :=
  if entry.succeeded then
    match entry.operation with
    | .compile tag _ => ledger.receive tag
    | .copyToDevice tag => ledger.receive tag
    | .copyToHost tag => ledger.fetch tag entry.demanded
    | .execute tag _ _ => ledger.step tag
    | _ => ledger
  else ledger

/-- The ledger of a journal. -/
def ofEntries (entries : List Entry) : Ledger := entries.foldl after start

@[simp]
theorem ofEntries_append_singleton (entries : List Entry) (entry : Entry) :
    ofEntries (entries ++ [entry]) = (ofEntries entries).after entry := by
  simp [ofEntries]

end Ledger

/-- An entry that says nothing of the weights: nothing made or moved any, and nothing was
executed. -/
def Entry.isIdle (entry : Entry) : Bool :=
  match entry.operation with
  | .execute _ _ _ => false
  | .compile _ _ | .copyToHost _ | .copyToDevice _ => !entry.succeeded
  | _ => true

theorem Entry.not_compiles_of_isIdle {entry : Entry} (idle : entry.isIdle) :
    entry.compiles = false := by
  obtain ⟨operation, succeeded, demanded⟩ := entry
  cases operation <;> simp_all [isIdle, compiles]

/-- The number of the executable of an execution that does not train. -/
def Entry.inference? (entry : Entry) : Option Nat :=
  match entry.operation with
  | .execute tag _ _ => if tag.training then none else some tag.number
  | _ => none

theorem Entry.inference?_of_isIdle {entry : Entry} (idle : entry.isIdle) :
    entry.inference? = none := by
  obtain ⟨operation, succeeded, demanded⟩ := entry
  cases operation <;> simp_all [isIdle, inference?]

namespace Ledger

theorem after_idle {entry : Entry} (idle : entry.isIdle) (ledger : Ledger) :
    ledger.after entry = ledger := by
  obtain ⟨operation, succeeded, demanded⟩ := entry
  cases operation <;> simp_all [after, Entry.isIdle]

theorem ofEntries_append_idle {more : List Entry} (idle : ∀ entry ∈ more, entry.isIdle)
    (entries : List Entry) : ofEntries (entries ++ more) = ofEntries entries := by
  rw [ofEntries, List.foldl_append]
  change more.foldl after (ofEntries entries) = ofEntries entries
  induction more with
  | nil => rfl
  | cons entry rest ih =>
      rw [List.foldl_cons, after_idle (idle entry (by simp))]
      exact ih fun other there => idle other (by simp [there])

/-- Every execution that does not train was asked for when the last count of refreshes had
reached its device and the host had the newest weights. -/
def UpToDate (entries : List Entry) : Prop :=
  ∀ position number, (entries[position]?.bind Entry.inference?) = some number →
    let ledger := ofEntries (entries.take position)
    ledger.refreshesAt number = ledger.refreshes ∧ ledger.host = ledger.trainer

theorem upToDate_nil : UpToDate [] := by simp [UpToDate]

/-- One more entry needs a look only if it is an execution that does not train. -/
theorem UpToDate.append_singleton {entries : List Entry} (upToDate : UpToDate entries)
    {entry : Entry}
    (last : ∀ number, entry.inference? = some number →
      (ofEntries entries).refreshesAt number = (ofEntries entries).refreshes ∧
        (ofEntries entries).host = (ofEntries entries).trainer) :
    UpToDate (entries ++ [entry]) := by
  intro position number there
  rcases Nat.lt_or_ge position entries.length with earlier | later
  · rw [List.getElem?_append_left earlier] at there
    rw [List.take_append_of_le_length (Nat.le_of_lt earlier)]
    exact upToDate position number there
  · have atEnd : position = entries.length := by
      obtain ⟨found, found_there, -⟩ := Option.bind_eq_some_iff.mp there
      have inside := (List.getElem?_eq_some_iff.mp found_there).1
      rw [List.length_append, List.length_singleton] at inside
      omega
    subst atEnd
    rw [List.getElem?_concat_length, Option.bind_some] at there
    rw [List.take_left]
    exact last number there

theorem UpToDate.append_idle {entries more : List Entry} (upToDate : UpToDate entries)
    (idle : ∀ entry ∈ more, entry.isIdle) : UpToDate (entries ++ more) := by
  induction more generalizing entries with
  | nil => rwa [List.append_nil]
  | cons entry rest ih =>
      rw [← List.singleton_append, ← List.append_assoc]
      refine ih (upToDate.append_singleton ?_) fun other there => idle other (by simp [there])
      intro number executes
      rw [Entry.inference?_of_isIdle (idle entry (by simp))] at executes
      exact nomatch executes

/-- What every single entry keeps holds of the ledger of a journal. -/
theorem ofEntries_induction (holds : Ledger → Prop) {entries : List Entry} (first : holds start)
    (kept : ∀ entry ∈ entries, ∀ ledger, holds ledger → holds (ledger.after entry)) :
    holds (ofEntries entries) := by
  have folds (ledger : Ledger) (now : holds ledger) : holds (entries.foldl after ledger) := by
    induction entries generalizing ledger with
    | nil => exact now
    | cons entry rest ih =>
        exact ih (fun other there => kept other (by simp [there])) _
          (kept entry (by simp) ledger now)
  exact folds start first

/-- No device has seen a refresh that was not counted. -/
def Bounded (ledger : Ledger) : Prop := ∀ number, ledger.refreshesAt number ≤ ledger.refreshes

theorem Bounded.receive {ledger : Ledger} (bounded : ledger.Bounded) (tag : Tag) :
    (ledger.receive tag).Bounded := by
  intro number
  unfold Ledger.receive
  split
  · exact bounded number
  · by_cases same : number = tag.number
    · simp [same]
    · simpa [Function.update_of_ne same] using bounded number

theorem Bounded.after {ledger : Ledger} (bounded : ledger.Bounded) (entry : Entry) :
    (ledger.after entry).Bounded := by
  obtain ⟨operation, succeeded, demanded⟩ := entry
  cases succeeded with
  | false => exact bounded
  | true =>
      cases operation with
      | compile tag request => exact bounded.receive tag
      | copyToDevice tag => exact bounded.receive tag
      | copyToHost tag =>
          intro number
          apply Nat.le_trans (bounded number)
          change ledger.refreshes ≤ if demanded then ledger.refreshes else ledger.refreshes + 1
          split
          · exact Nat.le_refl _
          · exact Nat.le_succ _
      | execute tag inputs optimizer =>
          change (ledger.step tag).Bounded
          unfold step
          split <;> exact bounded
      | _ => exact bounded

theorem bounded_ofEntries (entries : List Entry) : (ofEntries entries).Bounded :=
  ofEntries_induction Bounded (fun _ => Nat.le_refl 0) fun entry _ _ bounded => bounded.after entry

/-- Every device that received weights after the last refresh has those of the host. -/
def Counted (ledger : Ledger) : Prop :=
  ∀ number, ledger.refreshesAt number = ledger.refreshes → ledger.device number = ledger.host

theorem Counted.receive {ledger : Ledger} (counted : ledger.Counted) (tag : Tag) :
    (ledger.receive tag).Counted := by
  intro number
  unfold Ledger.receive
  split
  · exact counted number
  · by_cases same : number = tag.number
    · simp [same]
    · simpa [Function.update_of_ne same] using counted number

/-- A fetch that is counted leaves every device behind. -/
theorem Counted.fetch {ledger : Ledger} (bounded : ledger.Bounded) (tag : Tag) :
    (ledger.fetch tag false).Counted := fun number seen =>
  absurd (bounded number) (Nat.not_le_of_lt (Nat.lt_of_lt_of_eq (Nat.lt_succ_self _) seen.symm))

theorem Counted.after {ledger : Ledger} (counted : ledger.Counted) (bounded : ledger.Bounded)
    {entry : Entry} (undemanded : entry.demanded = false) : (ledger.after entry).Counted := by
  obtain ⟨operation, succeeded, demanded⟩ := entry
  cases succeeded with
  | false => exact counted
  | true =>
      cases operation with
      | compile tag request => exact counted.receive tag
      | copyToDevice tag => exact counted.receive tag
      | copyToHost tag =>
          obtain rfl : demanded = false := undemanded
          exact Counted.fetch bounded tag
      | execute tag inputs optimizer =>
          change (ledger.step tag).Counted
          unfold step
          split <;> exact counted
      | _ => exact counted

/-- As long as no fetch is demanded, every fetch is counted. -/
theorem counted_ofEntries {entries : List Entry}
    (undemanded : ∀ entry ∈ entries, entry.demanded = false) : (ofEntries entries).Counted := by
  have both : (ofEntries entries).Bounded ∧ (ofEntries entries).Counted := by
    apply ofEntries_induction (fun ledger => ledger.Bounded ∧ ledger.Counted)
      ⟨fun _ => Nat.le_refl 0, fun _ _ => rfl⟩
    intro entry there ledger held
    obtain ⟨bounded, counted⟩ := held
    exact ⟨bounded.after entry, counted.after bounded (undemanded entry there)⟩
  exact both.2

end Ledger

end Offload
