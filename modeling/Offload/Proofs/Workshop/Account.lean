/-
# Accounts of an optimizer

What a history tells of the optimizer of one wrapper: which descriptor its device has and which one
was requested last. The device gets one with the compilation and another with every successful
execution that carries one; a request counts once it is accepted. An account is kept over the marks
that the history leaves for the wrapper, and says of the next mark whether it is as it should be.
-/

import Offload.Proofs.Optimizer.Equality
import Offload.Proofs.Workshop.Basic

namespace Offload

/-- The descriptor that an entry brings to the device, if it brings one. -/
def Entry.brings? (entry : Entry) : Option (Option Descriptor) :=
  if entry.succeeded then
    match entry.operation with
    | .compile _ request => some request.optimizer
    | .execute _ _ optimizer => optimizer.map some
    | _ => none
  else none

/-- What a history tells of the optimizer of a wrapper. -/
inductive Mark where
  /-- Something was asked for the wrapper. -/
  | asked (entry : Entry)
  /-- Another optimizer was requested, and accepted. -/
  | requested (descriptor : Descriptor)
  /-- A call came back with an executed output. -/
  | executed

/-- The mark that a task leaves when it is over. -/
def Task.marks : Task → Result (Option Output) → List Mark
  | .setOptimizer optimizer, .ok _ =>
      match Descriptor.ofHost optimizer with
      | .ok descriptor => [.requested descriptor]
      | .error _ => []
  | .call _, .ok (some output) => if output.isExecuted then [.executed] else []
  | _, _ => []

namespace Event

/-- The marks of one wrapper in an event. -/
def marks (number : Nat) : Event → List Mark
  | worked owner task outcome entries =>
      if owner = number then entries.map .asked ++ task.marks outcome else []
  | _ => []

/-- The marks of one wrapper in a history. -/
def allMarks (number : Nat) (history : List Event) : List Mark := history.flatMap (marks number)

/-- The optimizer that a wrapper was made with. -/
def optimizer? : Event → Option (Option Descriptor)
  | made optimizer => some optimizer
  | _ => none

/-- The optimizers that the wrappers of a history were made with. -/
def optimizers (history : List Event) : List (Option Descriptor) := history.filterMap optimizer?

theorem allMarks_append (number : Nat) (history : List Event) (event : Event) :
    allMarks number (history ++ [event]) = allMarks number history ++ event.marks number := by
  simp [allMarks]

theorem optimizers_append (history : List Event) (event : Event) :
    optimizers (history ++ [event]) = optimizers history ++ event.optimizer?.toList := by
  rw [optimizers, optimizers, List.filterMap_append]
  cases event <;> rfl

end Event

/-- The state of the optimizer of a wrapper. -/
structure Account where
  /-- What is on the device, once something is. -/
  device : Option (Option Descriptor)
  /-- What was requested last. -/
  requested : Option Descriptor

namespace Account

/-- The account of a wrapper that was made with an optimizer. -/
def opened (optimizer : Option Descriptor) : Account := ⟨none, optimizer⟩

/-- The account after a mark. -/
def after (account : Account) : Mark → Account
  | .asked entry => { account with device := entry.brings?.or account.device }
  | .requested descriptor => { account with requested := some descriptor }
  | .executed => account

/-- The account after some marks. -/
def run (account : Account) (marks : List Mark) : Account := marks.foldl after account

/-- An execution on the device carries a descriptor exactly if it was requested and differs from
the one on the device. -/
def Pushes (account : Account) (optimizer : Option Descriptor) : Prop :=
  ∃ onDevice, account.device = some onDevice ∧ ∀ descriptor, optimizer = some descriptor ↔
    account.requested = some descriptor ∧
      Descriptor.optionEqual onDevice (some descriptor) = false

/-- What was requested is on the device. -/
def Settled (account : Account) : Prop :=
  ∃ onDevice, account.device = some onDevice ∧
    Descriptor.optionEqual onDevice account.requested = true

/-- The next mark is as it should be. -/
def Allows (account : Account) : Mark → Prop
  | .asked ⟨.execute _ _ optimizer, _, _⟩ => account.Pushes optimizer
  | .executed => account.Settled
  | _ => True

/-- The next marks are as they should be, one after the other. -/
def AllowsAll : Account → List Mark → Prop
  | _, [] => True
  | account, mark :: later => account.Allows mark ∧ (account.after mark).AllowsAll later

theorem run_append (account : Account) (marks later : List Mark) :
    account.run (marks ++ later) = (account.run marks).run later := List.foldl_append

theorem allowsAll_append (account : Account) (marks later : List Mark) :
    account.AllowsAll (marks ++ later) ↔
      account.AllowsAll marks ∧ (account.run marks).AllowsAll later := by
  induction marks generalizing account with
  | nil => simp [AllowsAll, run]
  | cons mark marks ih =>
      rw [List.cons_append, AllowsAll, AllowsAll, ih, and_assoc]
      rfl

/-- Each mark is as it should be after those before it. -/
theorem AllowsAll.of_prefix {account : Account} {marks earlier : List Mark} {mark : Mark}
    (allows : account.AllowsAll marks) (prior : earlier ++ [mark] <+: marks) :
    (account.run earlier).Allows mark := by
  obtain ⟨later, rfl⟩ := prior
  rw [List.append_assoc, allowsAll_append] at allows
  exact allows.2.1

/-- Entries that neither execute nor bring a descriptor leave an account as it is. -/
theorem silent {account : Account} {entries : List Entry}
    (each : ∀ entry ∈ entries, entry.brings? = none ∧ account.Allows (.asked entry)) :
    account.AllowsAll (entries.map .asked) ∧ account.run (entries.map .asked) = account := by
  induction entries with
  | nil => exact ⟨trivial, rfl⟩
  | cons entry entries ih =>
      obtain ⟨nothing, allows⟩ := each entry (.head _)
      have same : account.after (.asked entry) = account := by
        rw [after, nothing, Option.none_or]
      obtain ⟨rest, kept⟩ := ih fun later there => each later (.tail _ there)
      rw [List.map_cons, AllowsAll, run, List.foldl_cons, same]
      exact ⟨⟨allows, rest⟩, kept⟩

end Account

end Offload
