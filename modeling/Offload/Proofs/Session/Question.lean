/-
# Questions to a model

A model can be asked through its handles without refreshing anything: for its parameters, for its
layers, and to run. `Tolerates` collects what a verdict on sessions has to put up with for that:
notices, the three questions, and refusals of the library itself. `Bears` does the same for
relations that do not look at the outcome.
-/

import Offload.Proofs.Session.Step
import Offload.Proofs.Verdict

namespace Offload

namespace Session

open Attempt

variable {P : Platform}

section Verdict

/-- Questions to a model abide by the verdict, and so does the library when it refuses one. -/
structure Tolerates (verdict : Verdict (Session P.journaled)) : Prop where
  notices : ∀ session notices, verdict.good session { session with notices := notices }
  refuses : ∀ session cause, cause ≠ .notCompiled → verdict.bad session cause session
  forward : ∀ model inputs,
    (onWorld (P := P.journaled) (P.journaled.model.forward model inputs)).Abides verdict
  parameters : ∀ model,
    (onWorld (P := P.journaled) (P.journaled.model.parameters model)).Abides verdict
  layers : ∀ model, (onWorld (P := P.journaled) (P.journaled.model.layers model)).Abides verdict

variable {verdict : Verdict (Session P.journaled)}

theorem abides_borrow (tolerates : Tolerates verdict) (handle : Handle) :
    (borrow (P := P.journaled) handle).Abides verdict := by
  unfold borrow
  refine abides_bind abides_get fun session => ?_
  dsimp only
  split
  · exact abides_bind (abides_throw fun session => tolerates.refuses session _ nofun) fun _ =>
      abides_pure _
  · exact abides_pure _

theorem abides_forwardAsIs (tolerates : Tolerates verdict) (handle : Handle) (inputs : List Tree) :
    (forwardAsIs (P := P.journaled) handle inputs).Abides verdict :=
  abides_bind (abides_borrow tolerates handle) fun model => tolerates.forward model inputs

theorem abides_parametersAsIs (tolerates : Tolerates verdict) (handle : Handle) :
    (parametersAsIs (P := P.journaled) handle).Abides verdict :=
  abides_bind (abides_borrow tolerates handle) fun model => tolerates.parameters model

theorem abides_layers (tolerates : Tolerates verdict) (handle : Handle) :
    (layers (P := P.journaled) handle).Abides verdict :=
  abides_bind (abides_borrow tolerates handle) fun model => tolerates.layers model

/-- Running the model of a trainer as it is asks for no refresh. -/
theorem abides_trainingForward (tolerates : Tolerates verdict) (handle : Handle)
    (loss : Option (Loss P))
    (losses : ∀ other, loss = some other → ∀ output target,
      (onWorld (P := P.journaled) (other.journaled output target)).Abides verdict)
    (inputs : List Tree) :
    (Subject.trainingForward (P := P.journaled) handle (loss.map Loss.journaled) inputs).Abides
      verdict := by
  unfold Subject.trainingForward
  split
  · exact abides_throw fun session => tolerates.refuses session _ (by simp)
  · apply abides_bind (abides_forwardAsIs tolerates handle _)
    intro output
    cases loss with
    | none => exact abides_pure _
    | some loss => exact abides_bind (losses loss rfl _ _) fun _ => abides_pure _

end Verdict

section Relation

/-- Questions to a model stay within the relation. -/
structure Bears (rel : Session P.journaled → Session P.journaled → Prop) : Prop where
  notices : ∀ session notices, rel session { session with notices := notices }
  forward : ∀ inputs (step : Attempt P.World Tree),
    (onWorld (P := P.journaled) (Journaled.noting (.forward inputs) step)).Obeys rel
  parameters : ∀ step : Attempt P.World (List NamedParameter),
    (onWorld (P := P.journaled) (Journaled.noting .parameters step)).Obeys rel
  layers : ∀ step : Attempt P.World (List LayerInfo),
    (onWorld (P := P.journaled) (Journaled.noting .layers step)).Obeys rel
  loss : ∀ step : Attempt P.World Tree,
    (onWorld (P := P.journaled) (within Journaled.focus step)).Obeys rel

variable {rel : Session P.journaled → Session P.journaled → Prop}
  [IsPreorder (Session P.journaled) rel]

theorem Bears.tolerates (bears : Bears rel) : Tolerates (.plain rel) where
  notices := bears.notices
  refuses session _ _ := refl_of rel session
  forward _ inputs := abides_plain.mpr (bears.forward inputs _)
  parameters _ := abides_plain.mpr (bears.parameters _)
  layers _ := abides_plain.mpr (bears.layers _)

theorem obeys_forwardAsIs (bears : Bears rel) (handle : Handle) (inputs : List Tree) :
    (forwardAsIs (P := P.journaled) handle inputs).Obeys rel :=
  abides_plain.mp (abides_forwardAsIs bears.tolerates handle inputs)

theorem obeys_parametersAsIs (bears : Bears rel) (handle : Handle) :
    (parametersAsIs (P := P.journaled) handle).Obeys rel :=
  abides_plain.mp (abides_parametersAsIs bears.tolerates handle)

theorem obeys_layers (bears : Bears rel) (handle : Handle) :
    (layers (P := P.journaled) handle).Obeys rel :=
  abides_plain.mp (abides_layers bears.tolerates handle)

theorem obeys_trainingForward (bears : Bears rel) (handle : Handle) (loss : Option (Loss P))
    (inputs : List Tree) :
    (Subject.trainingForward (P := P.journaled) handle (loss.map Loss.journaled) inputs).Obeys
      rel :=
  abides_plain.mp (abides_trainingForward bears.tolerates handle loss
    (fun _ _ _ _ => abides_plain.mpr (bears.loss _)) inputs)

end Relation

end Session

end Offload
