/-
# What rehearsals fail for

A rehearsal fails for what it was told to fail for, and for what a model cannot do. It never claims
that an executable is missing, so it is a platform on which that cause is left to the library. Casting
a layer of its models converts parameters and leaves their signatures alone.
-/

import Offload.Proofs.Retry.Contract
import Offload.Proofs.Sparing
import Offload.Rehearsal.Platform

namespace Offload.Rehearsal

open Attempt

/-- What a rehearsal fails for. -/
inductive Fails : Error → Prop where
  | told (text : String) : Fails (.platform text)
  | unknownLayer (name : String) : Fails (.unknownLayer name)
  | inputless (text : String) : Fails (.custom text)
  | outOfBounds : Fails .outOfBounds
  | unrepresentable (dtype : DType) : Fails (.unrepresentable dtype)

section Spare

variable {spared : Error} (apart : ¬ Fails spared)

include apart

/-- What is told to fail fails for a cause of the platform. -/
theorem check_spares (operation : String) : (check operation).Abides (.sparing spared) := by
  refine abides_bind abides_get fun world => ?_
  split
  · exact abides_throw fun _ same => apart (same ▸ .told _)
  · exact abides_pure _

theorem perform_spares (event : Event) (operation : String) :
    (perform event operation).Abides (.sparing spared) :=
  abides_bind (abides_modify fun _ => trivial) fun _ => check_spares apart operation

theorem not_reading : ¬ spared.Reading := by
  intro reading
  cases reading with
  | outOfBounds => exact apart .outOfBounds
  | unrepresentable dtype => exact apart (.unrepresentable dtype)

/-- Casting the parameters of a layer fails for what a conversion fails for. -/
theorem castParameters_spares (layer : String) (dtype : DType) (parameters : List NamedParameter) :
    (Model.castParameters layer dtype parameters).1 ≠ .error spared := by
  induction parameters with
  | nil => exact nofun
  | cons parameter later ih =>
      unfold Model.castParameters
      split
      · split
        · next cause failed => exact error_spares (toDType_spares (not_reading apart) _ _) failed
        · exact ih
      · exact ih

theorem castLayer_spares (layer : String) (dtype : DType) :
    (Model.castLayer layer dtype).Abides (.sparing spared) := by
  refine abides_bind (abides_onRest (perform_spares apart _ _)) fun _ =>
    abides_bind abides_get fun state => ?_
  have converts := castParameters_spares apart layer dtype state.1.parameters
  dsimp only
  split
  · exact abides_bind (abides_throw fun _ same => apart (same ▸ .unknownLayer _)) fun _ =>
      abides_bind (abides_modify fun _ => trivial) fun _ => ofResult_spares converts
  · exact abides_bind (abides_modify fun _ => trivial) fun _ => ofResult_spares converts

end Spare

/-- Whatever comes of a cast, the model has the signature that it had. -/
theorem keepsSignatures (printsPrograms : Bool) : (platform printsPrograms).KeepsSignatures := by
  intro layer dtype model world
  let same (reached : Model × World) : Prop := reached.1.signature = model.signature
  have ends : (Model.castLayer layer dtype).Ends (model, world) (fun _ reached => same reached)
      fun _ reached => same reached := by
    rw [Model.castLayer, ends_bind, onRest, ends_within]
    refine (ends_somehow _ _).mono (fun _ asked _ => ?_) fun _ _ _ => rfl
    rw [ends_bind, ends_get]
    dsimp only
    split
    · exact rfl
    · rw [ends_bind, ends_modify]
      exact ends_ofResult (fun _ _ => rfl) fun _ _ => rfl
  exact ends.reached

section Dialogue

variable {W α β : Type} {spared : Error}

theorem pure_spares (value : α) : (pure value : Capture W α).Spares spared := by
  change Except.ok value ≠ Except.error spared
  exact nofun

/-- A dialogue that goes on spares what both of its parts spare. -/
theorem andThen_spares {rest : α → Capture W β} (goes : ∀ value, (rest value).Spares spared)
    {dialogue : Capture W α} (spares : dialogue.Spares spared) :
    (dialogue.andThen rest).Spares spared := by
  induction dialogue with
  | done outcome =>
      cases outcome with
      | ok value => exact goes value
      | error cause => exact error_spares spares rfl
  | look next ih => exact fun world => ih world (spares world)
  | leave world next ih => exact ih spares
  | signature next ih => exact fun answer => ih answer (spares answer)
  | layers next ih => exact fun answer apart => ih answer (spares answer apart)
  | parameters next ih => exact fun answer apart => ih answer (spares answer apart)
  | forward inputs next ih => exact fun answer apart => ih answer (spares answer apart)

/-- A step in a dialogue spares what it spares on its own. -/
theorem ofAttempt_spares {step : Attempt W α} (spares : step.Abides (.sparing spared)) :
    (Capture.ofAttempt step).Spares spared := by
  intro world same
  have ended : step.perform world = (.error spared, (step.perform world).2) :=
    Prod.ext same rfl
  exact (spares world).error ended rfl

end Dialogue

/-- A rehearsal fails for nothing else than it is known to fail for. -/
theorem spares_of_not_fails {spared : Error} (apart : ¬ Fails spared) (printsPrograms : Bool) :
    (platform printsPrograms).Spares spared where
  forward model inputs := by
    refine abides_bind (check_spares apart _) fun _ => ?_
    split
    · exact abides_pure _
    · cases inputs with
      | nil => exact abides_throw fun _ same => apart (same ▸ .inputless _)
      | cons first others => exact abides_pure _
  parameters model :=
    abides_bind (check_spares apart _) fun _ => abides_pure _
  layers model :=
    abides_bind (abides_bind (check_spares apart _) fun _ => abides_pure _) fun _ =>
      abides_pure _
  castLayer := castLayer_spares apart
  trace inputs := by
    refine andThen_spares (fun _ => ?_) (ofAttempt_spares (perform_spares apart _ _))
    refine andThen_spares (fun layers => ?_) fun _ apart => apart
    refine andThen_spares (fun _ => ?_) (ofAttempt_spares (abides_modify fun _ => trivial))
    refine andThen_spares (fun output => ?_) fun _ apart => apart
    exact andThen_spares (fun _ => pure_spares _) (ofAttempt_spares (abides_modify fun _ => trivial))
  script := by
    refine andThen_spares (fun _ => ?_) (ofAttempt_spares (perform_spares apart _ _))
    refine andThen_spares (fun signature => ?_) fun _ => nofun
    exact andThen_spares (fun _ => pure_spares _) (ofAttempt_spares abides_get)
  inferInput position sample :=
    abides_bind (abides_onRest (perform_spares apart _ _)) fun _ =>
      abides_modify fun _ => trivial
  castGraphLayer layer dtype :=
    abides_bind (abides_onRest (perform_spares apart _ _)) fun _ =>
      abides_modify fun _ => trivial
  compileTraced graph request :=
    abides_bind (perform_spares apart _ _) fun _ => abides_bind abides_get fun _ =>
      abides_bind (abides_modify fun _ => trivial) fun _ => abides_pure _
  compileScripted graph request :=
    abides_bind (perform_spares apart _ _) fun _ => abides_bind abides_get fun _ =>
      abides_bind (abides_modify fun _ => trivial) fun _ => abides_pure _
  execute executable inputs optimizer :=
    abides_bind (perform_spares apart _ _) fun _ => abides_bind abides_get fun _ =>
      abides_pure _
  copyToHost executable := perform_spares apart _ _
  copyToDevice executable := perform_spares apart _ _
  refresh hook :=
    abides_bind abides_get fun _ => abides_bind (perform_spares apart _ _) fun _ =>
      abides_bind (abides_modify fun _ => trivial) fun _ => abides_pure _

/-- A rehearsal never claims that an executable is missing. -/
theorem spares (printsPrograms : Bool) : (platform printsPrograms).Spares .notCompiled :=
  spares_of_not_fails (by nofun) printsPrograms

end Offload.Rehearsal
