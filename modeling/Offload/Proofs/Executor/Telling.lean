/-
# Steps that only tell

Binding the arguments of a call and making the views that compilation works on change leaves of
a binding, which is state of their own. Of everything else they leave at most what the
application was told: the notices of the session and the mark that strided inputs were reported.
-/

import Offload.Proofs.Verdict
import Offload.Executor.Call

namespace Offload

namespace Binding

open Attempt

section Abides

variable {σ : Type} {verdict : Verdict σ}

private theorem abides_setArguments (arguments : List Tree) :
    (setArguments arguments : Attempt (Binding × σ) Unit).Abides verdict.onRest :=
  fun state => verdict.refl state.2

theorem abides_forEach {change : Value → Attempt σ Value}
    (changes : ∀ value, (change value).Abides verdict) :
    (forEach change).Abides verdict.onRest := by
  refine abides_bind abides_get fun state => abides_bind (abides_setArguments _) fun _ => ?_
  exact abides_bind (abides_onRest (Tree.abides_mapItemsM changes _)) fun _ =>
    abides_setArguments _

theorem abides_forEachMatched {selected : Value → Bool} {change : Value → Attempt σ Value}
    (changes : ∀ value, (change value).Abides verdict) :
    (forEachMatched selected change).Abides verdict.onRest := by
  have visits (value : Value) :
      (Tree.visitMatched selected change value).Abides verdict.onRest := by
    unfold Tree.visitMatched
    split
    · exact abides_bind (abides_modify fun state => verdict.refl state.2) fun _ =>
        abides_onRest (changes value)
    · exact abides_pure _
  refine abides_bind abides_get fun state => abides_bind (abides_setArguments _) fun _ => ?_
  apply abides_bind (abides_onRest (abides_withOwn (Tree.abides_mapItemsM visits _)))
  intro _
  exact abides_bind (abides_setArguments _) fun _ => abides_pure _

end Abides

variable {σ : Type} {rel : σ → σ → Prop} [IsPreorder σ rel]

theorem obeys_densify : (densify : Attempt (Binding × σ) Bool).Obeys (OnRest rel) :=
  abides_plain_onRest.mp (abides_forEachMatched fun _ => abides_ofResult fun _ _ => refl_of rel)

theorem obeys_promote : (promote : Attempt (Binding × σ) Bool).Obeys (OnRest rel) :=
  abides_plain_onRest.mp (abides_forEachMatched fun _ => abides_ofResult fun _ _ => refl_of rel)

theorem obeys_traceView (batch : Batch) :
    (batch.traceView : Attempt (Binding × σ) Unit).Obeys (OnRest rel) :=
  abides_plain_onRest.mp (abides_forEach fun _ => abides_ofResult fun _ _ => refl_of rel)

end Binding

namespace Executor

open Attempt

variable {P : Platform}

/-- What is done on the session is done beside the executor. -/
theorem ends_onSession {α : Type} {step : Attempt (Session P) α} {state : Running P}
    {good : α → Running P → Prop} {bad : Error → Running P → Prop} :
    (onSession step).Ends state good bad ↔
      step.Ends state.session (fun value session => good value { state with session := session })
        fun cause session => bad cause { state with session := session } :=
  ends_within

/-- The application was told something, and nothing else happened. -/
def Tells (before reached : Running P) : Prop :=
  ∃ notices warned, reached =
    ⟨{ before.executor with warned := warned }, { before.session with notices := notices }⟩

instance : IsPreorder (Running P) Tells where
  refl running := ⟨running.session.notices, running.executor.warned, rfl⟩
  trans _ _ _ := by
    rintro ⟨_, _, rfl⟩ ⟨notices, warned, rfl⟩
    exact ⟨notices, warned, rfl⟩

theorem obeys_notify (notice : Notice) : (notify notice : Attempt (Running P) Unit).Obeys Tells :=
  fun running => ⟨running.session.notices ++ [notice], running.executor.warned, rfl⟩

/-- Telling something cannot fail. -/
theorem ends_notify {notice : Notice} {running : Running P} {good : Unit → Running P → Prop}
    {bad : Error → Running P → Prop} (next : ∀ told, Tells running told → good () told) :
    (notify notice).Ends running good bad :=
  next _ (obeys_notify notice running)

/-- Telling something adds a notice, and nothing else happens. -/
theorem ends_notify_iff {notice : Notice} {running : Running P} {good : Unit → Running P → Prop}
    {bad : Error → Running P → Prop} :
    (notify notice : Attempt (Running P) Unit).Ends running good bad ↔
      good () { running with
        session := { running.session with notices := running.session.notices ++ [notice] } } :=
  Iff.rfl

theorem obeys_bind_arguments (call : CallArguments) :
    (bind call : Attempt (Running P) Binding).Obeys Tells := by
  unfold bind
  refine obeys_bind obeys_get fun running => obeys_bind (obeys_ofResult _) fun bound => ?_
  refine obeys_bind (obeys_withOwn Binding.obeys_densify) fun result => ?_
  obtain ⟨densified, binding⟩ := result
  dsimp only
  split
  · refine obeys_bind (obeys_notify _) fun _ => obeys_bind ?_ fun _ => obeys_pure _
    exact fun running => ⟨running.session.notices, true, rfl⟩
  · exact obeys_pure _

end Executor

end Offload
