/-
# What a retry relies on

Three things outside the library bear on whether a call can simply be retried. A hook outside the
library must be one: it refreshes exactly what is stale, and nothing but using it refreshes. The
frontend must capture a model in one way each time: by asking for its parameters or running it,
which refreshes stale weights, or without either. And casting a layer must leave the declared
parameters of a model alone.
-/

import Offload.Proofs.Attempt
import Offload.Proofs.Journal.Basic

namespace Offload

open Attempt

/-- Somebody holds a model. -/
def Error.Holding (cause : Error) : Prop := cause = .held ∨ cause = .heldForWriting

section Capture

variable {World α : Type}

/-- The dialogue comes to no good end before it was given parameters or an output of the model. -/
def Capture.Asks : Capture World α → Prop
  | .done outcome => ∀ value, outcome ≠ .ok value
  | .look next => ∀ world, (next world).Asks
  | .leave _ next => next.Asks
  | .signature next => ∀ answer, (next answer).Asks
  | .layers next => ∀ answer, (next answer).Asks
  | .parameters next => ∀ cause, (next (.error cause)).Asks
  | .forward _ next => ∀ cause, (next (.error cause)).Asks

/-- The dialogue neither asks for parameters nor runs the model. -/
def Capture.Silent : Capture World α → Prop
  | .done _ => True
  | .look next => ∀ world, (next world).Silent
  | .leave _ next => next.Silent
  | .signature next => ∀ answer, (next answer).Silent
  | .layers next => ∀ answer, (next answer).Silent
  | .parameters _ => False
  | .forward _ _ => False

/-- From a world with a flag, the dialogue leaves only worlds with the flag that it last found: the
answers to questions that may refresh are followed by any flag. -/
def Capture.Keeps (flag : World → Bool) : Capture World α → Bool → Prop
  | .done _ => fun _ => True
  | .look next => fun now => ∀ world, flag world = now → (next world).Keeps flag now
  | .leave world next => fun now => flag world = now ∧ next.Keeps flag now
  | .signature next => fun now => ∀ answer, (next answer).Keeps flag now
  | .layers next => fun now => ∀ answer, (next answer).Keeps flag now
  | .parameters next => fun _ => ∀ answer later, (next answer).Keeps flag later
  | .forward _ next => fun _ => ∀ answer later, (next answer).Keeps flag later

end Capture

/-- The flag of a world was not changed. -/
def SameFlag {World : Type} (flag : World → Bool) (before reached : World) : Prop :=
  flag reached = flag before

instance {World : Type} (flag : World → Bool) : IsPreorder World (SameFlag flag) where
  refl _ := rfl
  trans _ _ _ same same' := Eq.trans same' same

namespace Platform

variable (P : Platform)

/-- A flag of the world says whether a hook would refresh the host weights. Using the hook says so,
and lowers the flag if it succeeds; nothing else that is asked of the platform changes it. -/
structure Signals (hook : P.Hook) (flag : P.World → Bool) : Prop where
  refresh : ∀ world, (P.refresh hook).Ends world
    (fun copied reached => copied = flag world ∧ flag reached = false)
    fun _ reached => flag reached = flag world
  forward : ∀ model inputs, (P.model.forward model inputs).Obeys (SameFlag flag)
  parameters : ∀ model, (P.model.parameters model).Obeys (SameFlag flag)
  layers : ∀ model, (P.model.layers model).Obeys (SameFlag flag)
  castLayer : ∀ layer dtype, (P.model.castLayer layer dtype).Obeys (OnRest (SameFlag flag))
  trace : ∀ inputs now, (P.trace inputs).Keeps flag now
  script : ∀ now, P.script.Keeps flag now
  inferInput : ∀ position sample, (P.inferInput position sample).Obeys (OnRest (SameFlag flag))
  castGraphLayer : ∀ layer dtype,
    (P.castGraphLayer layer dtype).Obeys (OnRest (SameFlag flag))
  compileTraced : ∀ graph request, (P.compileTraced graph request).Obeys (SameFlag flag)
  compileScripted : ∀ graph request, (P.compileScripted graph request).Obeys (SameFlag flag)
  execute : ∀ executable inputs optimizer,
    (P.execute executable inputs optimizer).Obeys (SameFlag flag)
  copyToDevice : ∀ executable, (P.copyToDevice executable).Obeys (SameFlag flag)

/-- Casting a layer leaves the declared parameters of a model alone. -/
def KeepsSignatures : Prop :=
  ∀ layer dtype model world,
    P.model.signature ((P.model.castLayer layer dtype).perform (model, world)).2.1 =
      P.model.signature model

end Platform

end Offload
