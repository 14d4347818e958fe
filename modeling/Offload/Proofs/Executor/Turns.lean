/-
# The turns of an executor

The life of an executor as far as it binds arguments: it is called or compiled, again and again,
whatever came of it the last time. Between two turns the session may become any other, since other
executors and other handles work in it, weights are copied and marked by hand, and the world goes
on; and another optimizer may be asked for. Nothing else changes the executor between two turns.
-/

import Offload.Proofs.Executor.Course

namespace Offload

open Attempt

/-- A call or a compilation, with the session that the executor finds and the optimizer that is
requested by then. -/
structure Turn (P : Platform) where
  session : Session P
  requested : Option Descriptor
  /-- The executor is compiled for the arguments, rather than called. -/
  compiles : Bool
  arguments : CallArguments

/-- A turn with what it came to. -/
structure Episode (P : Platform) where
  before : Running P
  turn : Turn P
  outcome : Result (Option Output)
  reached : Running P

namespace Executor

variable {P : Platform}

/-- An executor as it stands at the beginning of a turn. -/
def opening (executor : Executor P) (turn : Turn P) : Running P :=
  ⟨{ executor with requested := turn.requested }, turn.session⟩

/-- Do what the turn asks; only a call has something to give back. -/
def take (turn : Turn P) : Attempt (Running P) (Option Output) :=
  if turn.compiles then do
    compile turn.arguments
    return none
  else do return some (← call turn.arguments)

/-- What an executor comes to in some turns, one after the other. -/
def episodes : Executor P → List (Turn P) → List (Episode P)
  | _, [] => []
  | executor, turn :: later =>
      let ended := (take turn).perform (executor.opening turn)
      ⟨executor.opening turn, turn, ended.1, ended.2⟩ :: ended.2.executor.episodes later

end Executor

namespace Turn

variable {P : Platform} (turn : Turn P) (before : Running P)

/-- The arguments are looked at: an executor that is compiled is not compiled again. -/
def Binds : Prop := turn.compiles = false ∨ Executor.isCompiled before = false

end Turn

namespace Executor

variable {P : Platform} {verdict : Verdict (Session P)}

/-- A turn that does not bind its arguments does nothing; otherwise it ends as a task that binds
them. -/
theorem ends_take_working (endures : Endures verdict) (turn : Turn P) (before : Running P) :
    (take turn).Ends before
      (fun _ reached => ¬ turn.Binds before ∧ reached = before ∨
        turn.Binds before ∧ ComesThrough verdict turn.arguments before reached)
      fun cause reached => turn.Binds before ∧ FallsShort verdict turn.arguments before cause reached := by
  unfold take
  split
  · next compiles =>
      rw [ends_bind]
      refine (ends_compile_working endures turn.arguments before).mono ?_ ?_
      · rintro - reached (⟨compiled, same⟩ | ⟨fresh, through⟩)
        · exact .inl ⟨by simp [Turn.Binds, compiles, compiled], same⟩
        · exact .inr ⟨.inr fresh, through⟩
      · rintro cause reached ⟨fresh, fails⟩
        exact ⟨.inr fresh, fails⟩
  · next calls =>
      have calls : turn.Binds before := .inl (by simpa using calls)
      rw [ends_bind]
      exact (ends_call_working endures turn.arguments before).mono
        (fun _ _ through => .inr ⟨calls, through⟩) fun _ _ fails => ⟨calls, fails⟩

/-- What every turn keeps of the executor holds in all turns, and with it what every turn comes to
if that holds. -/
theorem forall_episodes {invariant : Executor P → Prop} {holds : Episode P → Prop}
    (step : ∀ executor turn, invariant executor →
      (take turn).Ends (executor.opening turn)
        (fun output reached => holds ⟨executor.opening turn, turn, .ok output, reached⟩ ∧
          invariant reached.executor)
        fun cause reached => holds ⟨executor.opening turn, turn, .error cause, reached⟩ ∧
          invariant reached.executor)
    {executor : Executor P} (held : invariant executor) (turns : List (Turn P)) :
    ∀ episode ∈ executor.episodes turns, holds episode := by
  induction turns generalizing executor with
  | nil => simp [episodes]
  | cons turn later ih =>
      have ends := step executor turn held
      unfold Ends at ends
      rw [episodes]
      rcases performed : (take turn).perform (executor.opening turn) with ⟨cause | output, reached⟩
      all_goals rw [performed] at ends
      · exact List.forall_mem_cons.mpr ⟨ends.1, ih ends.2⟩
      · exact List.forall_mem_cons.mpr ⟨ends.1, ih ends.2⟩

end Executor

end Offload
